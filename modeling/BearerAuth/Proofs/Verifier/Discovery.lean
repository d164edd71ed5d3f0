import BearerAuth.Proofs.Verifier.Startup
import Mathlib.Logic.Function.Defs
import Mathlib.Tactic.MkIffOfInductiveProp

/-!
# Which issuers are one

A slash at the end of an issuer is left out twice: where the URL of the metadata document is made
and where the document's issuer is compared with the expected one. Both places take the same
issuers for one: equal ones, and two that differ in a slash at the end of one of them where the
other has none.
-/
namespace BearerAuth

/-- No slash stands at the end. -/
def Bare (issuer : String) : Prop := ∀ rest, issuer ≠ rest ++ "/"

/-- Two texts of one issuer. Only a text without a slash at its end may be given one. -/
@[mk_iff]
inductive SameIssuer : String → String → Prop
  | refl (issuer : String) : SameIssuer issuer issuer
  | slashed {issuer : String} (bare : Bare issuer) : SameIssuer (issuer ++ "/") issuer
  | unslashed {issuer : String} (bare : Bare issuer) : SameIssuer issuer (issuer ++ "/")

/-- A view of issuers that reads them without one slash at the end. -/
structure LeavesOutSlash {α : Type} (view read : String → α) : Prop where
  injective : Function.Injective read
  slashed : ∀ rest, view (rest ++ "/") = read rest
  bare : ∀ issuer, Bare issuer → view issuer = read issuer

variable {a b c : String}

theorem bare_or_slashed (issuer : String) : Bare issuer ∨ ∃ rest, issuer = rest ++ "/" := by
  by_cases h : ∃ rest, issuer = rest ++ "/"
  · exact .inr h
  · exact .inl fun rest heq => h ⟨rest, heq⟩

theorem bare_empty : Bare "" := fun _ h =>
  absurd (String.append_eq_empty_iff.mp h.symm).2 (by decide)

theorem Bare.getLast?_ne (h : Bare a) : a.toList.getLast? ≠ some '/' := by
  intro hlast
  obtain ⟨rest, hrest⟩ := List.getLast?_eq_some_iff.mp hlast
  refine h (String.ofList rest) (String.toList_injective ?_)
  rw [hrest, String.toList_append, String.toList_ofList]
  rfl

theorem toList_slashed (rest : String) : (rest ++ "/").toList = rest.toList ++ ['/'] :=
  String.toList_append

/-- All such views tell the same issuers apart. -/
theorem LeavesOutSlash.eq_iff {α : Type} {view read : String → α} (h : LeavesOutSlash view read) :
    view a = view b ↔ SameIssuer a b := by
  constructor
  · intro heq
    -- With the slashes named, both views are what is read of two texts, which are then equal.
    obtain ha | ⟨rest, rfl⟩ := bare_or_slashed a <;>
      obtain hb | ⟨rest', rfl⟩ := bare_or_slashed b
    · rw [h.bare a ha, h.bare b hb] at heq
      rw [h.injective heq]
      exact .refl b
    · rw [h.bare a ha, h.slashed] at heq
      rw [← h.injective heq]
      exact .unslashed ha
    · rw [h.slashed, h.bare b hb] at heq
      rw [h.injective heq]
      exact .slashed hb
    · rw [h.slashed, h.slashed] at heq
      rw [h.injective heq]
      exact .refl _
  · intro hsame
    cases hsame with
    | refl => rfl
    | slashed bare => rw [h.slashed, h.bare b bare]
    | unslashed bare => rw [h.slashed, h.bare a bare]

theorem stripSlash_slashed (text : List Char) : stripSlash (text ++ ['/']) = text := by
  rw [stripSlash, List.reverse_append, List.reverse_singleton, List.singleton_append]
  exact List.reverse_reverse text

theorem stripSlash_bare {text : List Char} (h : text.getLast? ≠ some '/') :
    stripSlash text = text := by
  rw [List.getLast?_eq_head?_reverse] at h
  rw [stripSlash]
  split
  · rename_i heq
    rw [heq] at h
    exact absurd rfl h
  · rfl

theorem leavesOutSlash_metadataUrl : LeavesOutSlash metadataUrl (· ++ metadataPath) where
  injective _ _ h := (String.append_left_inj metadataPath).mp h
  slashed rest := by
    rw [metadataUrl, toList_slashed, stripSlash_slashed, String.ofList_toList]
  bare issuer h := by rw [metadataUrl, stripSlash_bare h.getLast?_ne, String.ofList_toList]

theorem metadataUrl_eq_iff : metadataUrl a = metadataUrl b ↔ SameIssuer a b :=
  leavesOutSlash_metadataUrl.eq_iff

example : metadataUrl "https://idp.example//" =
    "https://idp.example//.well-known/openid-configuration" := by decide

namespace SameIssuer

theorem symm (h : SameIssuer a b) : SameIssuer b a := by
  cases h with
  | refl => exact .refl a
  | slashed bare => exact .unslashed bare
  | unslashed bare => exact .slashed bare

/-- The three issuers have one metadata URL. -/
theorem trans (h : SameIssuer a b) (h' : SameIssuer b c) : SameIssuer a c :=
  metadataUrl_eq_iff.mp ((metadataUrl_eq_iff.mpr h).trans (metadataUrl_eq_iff.mpr h'))

/-- With two slashes at its end an issuer has one text only. -/
theorem twice_iff : SameIssuer (a ++ "//") b ↔ b = a ++ "//" := by
  have hslashes : a ++ "//" = a ++ "/" ++ "/" := by
    rw [String.append_assoc]
    rfl
  rw [hslashes, sameIssuer_iff]
  constructor
  · rintro (rfl | ⟨bare, heq⟩ | ⟨bare, -⟩)
    · rfl
    · exact absurd ((String.append_left_inj "/").mp heq).symm (bare a)
    · exact absurd rfl (bare (a ++ "/"))
  · exact .inl

theorem not_twice : ¬SameIssuer (a ++ "//") a := by
  intro h
  have hlength := congrArg String.length (twice_iff.mp h)
  simp at hlength

theorem empty_iff : SameIssuer "" b ↔ b = "" ∨ b = "/" := by
  rw [sameIssuer_iff]
  constructor
  · rintro (rfl | ⟨-, heq⟩ | ⟨-, rfl⟩)
    · exact .inl rfl
    · exact absurd heq (bare_empty b)
    · exact .inr rfl
  · rintro (rfl | rfl)
    · exact .inl rfl
    · exact .inr (.inr ⟨bare_empty, rfl⟩)

end SameIssuer

namespace ProviderMetadata

theorem leavesOutSlash_trimmed : LeavesOutSlash trimmed String.toList where
  injective _ _ h := String.toList_injective h
  slashed rest := by
    rw [trimmed, toList_slashed, List.getLast?_concat, if_pos rfl, List.dropLast_concat]
  bare issuer h := if_neg h.getLast?_ne

/-- A document that advertises the one issuer matches the other. -/
def Matches (jwksUri advertised expected : String) : Prop :=
  issuerMatches ⟨some advertised, jwksUri⟩ expected = true

variable {jwksUri : String}

theorem matches_iff : Matches jwksUri a b ↔ SameIssuer a b :=
  decide_eq_true_iff.trans leavesOutSlash_trimmed.eq_iff

theorem equivalence_matches : Equivalence (Matches jwksUri) where
  refl a := matches_iff.mpr (.refl a)
  symm h := matches_iff.mpr (matches_iff.mp h).symm
  trans h h' := matches_iff.mpr ((matches_iff.mp h).trans (matches_iff.mp h'))

theorem matches_both_iff :
    Matches jwksUri a b ∧ Matches jwksUri b a ↔ metadataUrl a = metadataUrl b := by
  rw [metadataUrl_eq_iff, matches_iff, matches_iff]
  exact ⟨And.left, fun h => ⟨h, h.symm⟩⟩

end ProviderMetadata

namespace Config

/-- The configuration for an issuer whose documents are still to be found. -/
def discovering (config : Config) (issuer : String) : Config :=
  { config with issuer, discoveryUrl := none, jwksUrl := none }

/-- The issuer decides where a start begins, and nothing else of it. -/
theorem startup_discovering_eq_iff {config : Config} :
    (config.discovering a).startup = (config.discovering b).startup ↔
      metadataUrl a = metadataUrl b := by
  rw [startup_of_discovered rfl, startup_of_discovered rfl]
  constructor
  · intro h
    exact (Dialogue.ask.inj h).1
  · intro h
    exact congrArg (Dialogue.ask · _) h

end Config

open ProviderMetadata

/-- How discovery tells issuers apart. -/
structure TellsApart (jwksUri : String) : Prop where
  /-- The comparison and the URL of the metadata document agree. -/
  matching : ∀ a b, Matches jwksUri a b ↔ metadataUrl a = metadataUrl b
  equivalence : Equivalence (Matches jwksUri)
  /-- Issuers that match each other have one document. -/
  shared : ∀ a b, metadataUrl a = metadataUrl b ↔ Matches jwksUri a b ∧ Matches jwksUri b a
  /-- A verifier starts alike for them, whatever is configured besides. -/
  started : ∀ (config : Config) a b,
    (config.discovering a).startup = (config.discovering b).startup ↔
      Matches jwksUri a b ∧ Matches jwksUri b a
  /-- One slash at the end is ignored where the other issuer has none. -/
  once : ∀ a b, Matches jwksUri a b ↔ SameIssuer a b
  /-- Two slashes at the end make another issuer. -/
  twice : ∀ a, ¬Matches jwksUri (a ++ "//") a ∧ ¬Matches jwksUri a (a ++ "//") ∧
    metadataUrl (a ++ "//") ≠ metadataUrl a
  /-- An issuer with two slashes at its end matches itself only. -/
  alone : ∀ a b, Matches jwksUri (a ++ "//") b ↔ b = a ++ "//"
  empty : ∀ a, Matches jwksUri "" a ↔ a = "" ∨ a = "/"

/-- Both places take the same issuers for one, and leave out exactly one slash. -/
theorem issuers_told_apart (jwksUri : String) : TellsApart jwksUri where
  matching a b := matches_iff.trans metadataUrl_eq_iff.symm
  equivalence := equivalence_matches
  shared a b := matches_both_iff.symm
  started config a b := Config.startup_discovering_eq_iff.trans matches_both_iff.symm
  once a b := matches_iff
  twice a := by
    rw [matches_iff, matches_iff, Ne, metadataUrl_eq_iff]
    exact ⟨SameIssuer.not_twice, fun h => SameIssuer.not_twice h.symm, SameIssuer.not_twice⟩
  alone a b := matches_iff.trans SameIssuer.twice_iff
  empty a := matches_iff.trans SameIssuer.empty_iff

end BearerAuth
