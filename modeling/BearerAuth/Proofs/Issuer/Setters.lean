import BearerAuth.Proofs.Issuer.Signed
import Mathlib.Data.List.Induction

/-!
# Sequences of setters

A token that is built by any sequence of setters and signed is read back as what the last setter
of each claim and of each header field has left.
-/
namespace BearerAuth

open Json

/-- One change to a token builder. -/
inductive Setter
  | issuer (text : String)
  | subject (text : String)
  | audience (text : String)
  | audiences (texts : List String)
  | expiresAt (seconds : Int64)
  | claim (name : String) (value : Value)
  | withoutClaim (name : String)
  | withoutExpiry
  | typ (text : String)
  | withoutTyp
  | kid (text : String)
  | withoutKid

namespace Setter

/-- The claim that is changed, with its value after the change. -/
def edit? : Setter → Option (String × Option Value)
  | issuer text => some ("iss", some (.string text))
  | subject text => some ("sub", some (.string text))
  | audience text => some ("aud", some (.string text))
  | audiences texts => some ("aud", some (.array (texts.map .string)))
  | expiresAt seconds => some ("exp", some (.ofInt64 seconds))
  | claim name value => some (name, some value)
  | withoutClaim name => some (name, none)
  | withoutExpiry => some ("exp", none)
  | _ => none

/-- What becomes of one claim, if it is the one that is changed. -/
def claim? (name : String) (setter : Setter) : Option (Option Value) :=
  setter.edit?.bind fun (changed, value) => if changed = name then some value else none

/-- What becomes of the type in the header, if it is changed. -/
def typ? : Setter → Option (Option String)
  | typ text => some (some text)
  | withoutTyp => some none
  | _ => none

/-- What becomes of the identifier in the header, if it is no longer the one of the key. -/
def kid? : Setter → Option (Option String)
  | kid text => some (some text)
  | withoutKid => some none
  | _ => none

/-- What the last setter decides that decides anything. -/
def lastOf {α : Type} (read : Setter → Option α) (otherwise : α) (setters : List Setter) : α :=
  (setters.reverse.findSome? read).getD otherwise

theorem lastOf_append_singleton {α : Type} (read : Setter → Option α) (otherwise : α)
    (setters : List Setter) (setter : Setter) :
    lastOf read otherwise (setters ++ [setter]) =
      (read setter).getD (lastOf read otherwise setters) := by
  unfold lastOf
  rw [List.reverse_append, List.reverse_singleton, List.singleton_append, List.findSome?_cons]
  cases read setter <;> rfl

/-- Only values that a caller chooses can be anything. -/
theorem plain_of_edit? {setter : Setter} {name : String} {value : Value}
    (hclaim : ∀ name value, setter = .claim name value → value.Plain)
    (h : setter.edit? = some (name, some value)) : value.Plain := by
  cases setter <;> cases h
  case claim => exact hclaim _ _ rfl
  case audiences texts => exact Value.plain_array (by simp [Value.plain_string])
  case expiresAt seconds => exact Value.plain_integer _
  all_goals exact Value.plain_string _

end Setter

namespace TokenBuilder

/-- Make one change. -/
def change (builder : TokenBuilder) : Setter → TokenBuilder
  | .issuer text => builder.issuer text
  | .subject text => builder.subject text
  | .audience text => builder.audience text
  | .audiences texts => builder.audiences texts
  | .expiresAt seconds => builder.expiresAt seconds
  | .claim name value => builder.claim name value
  | .withoutClaim name => builder.withoutClaim name
  | .withoutExpiry => builder.withoutExpiry
  | .typ text => builder.withTyp text
  | .withoutTyp => builder.withoutTyp
  | .kid text => builder.withKid text
  | .withoutKid => builder.withoutKid

/-- A builder after a sequence of changes. -/
def build (seconds : Int64) (setters : List Setter) : TokenBuilder :=
  setters.foldl change (issuedAt seconds)

theorem build_append_singleton (seconds : Int64) (setters : List Setter) (setter : Setter) :
    build seconds (setters ++ [setter]) = (build seconds setters).change setter := by
  simp [build]

section

variable (builder : TokenBuilder) (setter : Setter)

/-- Claims change by one value put under its name or by one name removed. -/
theorem claims_change : (builder.change setter).claims =
    match setter.edit? with
    | some (name, some value) => builder.claims.insert name value
    | some (name, none) => builder.claims.erase name
    | none => builder.claims := by
  cases setter <;> rfl

theorem get?_claims_change (name : String) : (builder.change setter).claims.get? name =
    (setter.claim? name).getD (builder.claims.get? name) := by
  rw [claims_change]
  unfold Setter.claim?
  rcases setter.edit? with _ | ⟨changed, _ | value⟩
  · rfl
  · rw [Members.get?_erase, Option.bind_some]
    by_cases h : changed = name <;> simp [h]
  · rw [Members.get?_insert, Option.bind_some]
    by_cases h : changed = name <;> simp [h]

theorem typ_change : (builder.change setter).typ = setter.typ?.getD builder.typ := by
  cases setter <;> rfl

theorem kidFor_change (key : SigningKey) :
    (builder.change setter).kidFor key = setter.kid?.getD (builder.kidFor key) := by
  cases setter <;> rfl

end

/-- What each setter decides or leaves as it was, a sequence leaves as the last one has it. -/
theorem view_build {α : Type} (view : TokenBuilder → α) {read : Setter → Option α}
    (hchange : ∀ builder setter, view (builder.change setter) = (read setter).getD (view builder))
    (seconds : Int64) (setters : List Setter) :
    view (build seconds setters) = Setter.lastOf read (view (issuedAt seconds)) setters := by
  -- From the end, since the last setter is the one that counts.
  induction setters using List.reverseRecOn with
  | nil => rfl
  | append_singleton setters setter ih =>
    rw [build_append_singleton, hchange, ih, Setter.lastOf_append_singleton]

theorem plain_change {builder : TokenBuilder} {setter : Setter}
    (hbuilder : (Value.object builder.claims).Plain)
    (hclaim : ∀ name value, setter = .claim name value → value.Plain) :
    (Value.object (builder.change setter).claims).Plain := by
  rw [claims_change]
  rcases hedit : setter.edit? with _ | ⟨name, _ | value⟩
  · exact hbuilder
  · exact hbuilder.erase name
  · exact hbuilder.insert name (Setter.plain_of_edit? hclaim hedit)

theorem plain_build (seconds : Int64) {setters : List Setter}
    (hclaim : ∀ name value, .claim name value ∈ setters → value.Plain) :
    (Value.object (build seconds setters).claims).Plain := by
  induction setters using List.reverseRecOn with
  | nil => exact plain_issuedAt seconds
  | append_singleton setters setter ih =>
    rw [build_append_singleton]
    refine plain_change (ih fun name value hmem => hclaim name value ?_)
      fun name value heq => hclaim name value ?_
    · exact List.mem_append_left _ hmem
    · exact heq ▸ List.mem_append_right _ (List.mem_singleton_self setter)

/-- A signed token is read back as what the last setter of each claim and of each header field has
left, and its signature is one over the text that stands before it. -/
theorem sign_build_read_back (seconds : Int64) (setters : List Setter) (key : SigningKey)
    (hclaim : ∀ name value, .claim name value ∈ setters → value.Plain)
    (hdepth : (Value.object (build seconds setters).claims).depth ≤ maxDepth)
    (hsize : ((build seconds setters).sign key).utf8ByteSize ≤ maxTokenBytes) :
    ∃ token claims, CompactToken.parse ((build seconds setters).sign key) = .ok token ∧
      token.claims = .ok claims ∧ claims.Sorted ∧
      (∀ name, claims.get? name =
        Setter.lastOf (Setter.claim? name) ((issuedAt seconds).claims.get? name) setters) ∧
      token.unverifiedHeader = .ok {
        algorithm := "EdDSA"
        kid := (Setter.lastOf Setter.kid? key.kid setters).filter (· ≠ "")
        typ := Setter.lastOf Setter.typ? (some "JWT") setters } ∧
      token.signingInput ++ "." ++ token.signature = (build seconds setters).sign key ∧
      token.signature = Base64Url.encode
        (Crypto.Ed25519.sign key.secret (Bytes.ofText token.signingInput)) := by
  have hplain := plain_build seconds hclaim
  have hvalues (name : String) : (build seconds setters).claims.get? name = _ :=
    view_build (fun builder => builder.claims.get? name)
      (fun builder setter => get?_claims_change builder setter name) seconds setters
  have htyp : (build seconds setters).typ = _ := view_build typ typ_change seconds setters
  have hkid : (build seconds setters).kidFor key = _ :=
    view_build (fun builder => builder.kidFor key)
      (fun builder setter => kidFor_change builder setter key) seconds setters
  refine ⟨key.signed _ _ _, (build seconds setters).claims, SigningKey.parse_sign hsize,
    key.claims_signed _ _ hplain hdepth, hplain.ordered.1, hvalues, ?_, key.text_signed _ _ _, ?_⟩
  · rw [SigningKey.unverifiedHeader_signed, htyp, hkid]
    rfl
  · rw [SigningKey.signingInput_signed]
    rfl

/-- Claims that are set twice or set and removed, an empty identifier and an empty type. -/
def overwriting : List Setter :=
  [.issuer "a", .claim "roles" (.array [.object [("é\"", .null)]]), .issuer "https://b", .kid "k",
    .withoutExpiry, .kid "", .withoutTyp, .typ "", .claim "x" (.bool true), .withoutClaim "x"]

theorem sign_build_read_back_overwriting :
    ∃ token claims, CompactToken.parse ((build 0 overwriting).sign ⟨7, some "key"⟩) = .ok token ∧
      token.claims = .ok claims ∧ claims.get? "iss" = some (.string "https://b") ∧
      claims.get? "roles" = some (.array [.object [("é\"", .null)]]) ∧
      claims.get? "sub" = some (.string "test-subject") ∧
      claims.get? "exp" = none ∧ claims.get? "x" = none ∧
      token.unverifiedHeader = .ok ⟨"EdDSA", none, some ""⟩ := by
  have hclaim : ∀ name value, .claim name value ∈ overwriting → value.Plain := by
    have hnested : (Value.object [("é\"", .null)]).Plain :=
      ⟨⟨List.pairwise_singleton _ _, trivial, trivial⟩, trivial, trivial⟩
    intro name value hmem
    simp only [overwriting, List.mem_cons, reduceCtorEq, Setter.claim.injEq, List.not_mem_nil,
      or_false, false_or] at hmem
    rcases hmem with ⟨-, rfl⟩ | ⟨-, rfl⟩
    · exact Value.plain_array (List.forall_mem_singleton.mpr hnested)
    · exact ⟨trivial, trivial⟩
  obtain ⟨token, claims, hparse, hclaims, -, hvalues, hheader, -, -⟩ :=
    sign_build_read_back 0 overwriting ⟨7, some "key"⟩ hclaim (by decide +kernel)
      (by decide +kernel)
  refine ⟨token, claims, hparse, hclaims, ?_, ?_, ?_, ?_, ?_, hheader⟩
  all_goals exact (hvalues _).trans rfl

end TokenBuilder
end BearerAuth
