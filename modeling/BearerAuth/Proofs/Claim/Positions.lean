import BearerAuth.Proofs.Claim.Containment
import Mathlib.Data.List.Induction
import Mathlib.Data.List.Permutation
import Mathlib.Tactic.Choose

/-!
# The containment law

The positions of a value are the steps that lead to its parts. A requirement is met exactly
when its positions have a map to those of the received value that keeps the structure. Checked
one level at a time, both sides say the same of a value and its children.
-/
namespace BearerAuth

open Json

namespace Json.Value

/-- One step down in a value: to the value under a key, or to an element. -/
inductive Step
  | key (name : String)
  | index (i : Nat)
  deriving DecidableEq, Repr

abbrev Position := List Step

def child? : Value → Step → Option Value
  | .object members, .key name => Members.get? members name
  | .array items, .index i => items[i]?
  | _, _ => none

/-- The part of a value at a position. -/
def at? (value : Value) : Position → Option Value
  | [] => some value
  | step :: rest => (value.child? step).bind (·.at? rest)

theorem at?_cons (value : Value) (step : Step) (rest : Position) :
    value.at? (step :: rest) = (value.child? step).bind (·.at? rest) := rfl

theorem at?_append (value : Value) (p q : Position) :
    value.at? (p ++ q) = (value.at? p).bind (·.at? q) := by
  induction p generalizing value with
  | nil => rfl
  | cons step rest ih =>
    rw [List.cons_append, at?_cons, at?_cons, Option.bind_assoc]
    exact congrArg _ (funext ih)

/-- A value has the positions on the way to its positions. -/
theorem isSome_at?_of_append {value : Value} {p q : Position} (h : (value.at? (p ++ q)).isSome) :
    (value.at? p).isSome := by
  rw [at?_append] at h
  exact Option.isSome_of_isSome_bind h

theorem sizeOf_child?_lt {value child : Value} {step : Step} (h : value.child? step = some child) :
    sizeOf child < sizeOf value := by
  cases value <;> cases step <;> simp only [child?, reduceCtorEq] at h
  · have := List.sizeOf_lt_of_mem (List.mem_of_getElem? h)
    simp only [array.sizeOf_spec]
    omega
  · have := List.sizeOf_lt_of_mem (Members.mem_of_get? h)
    simp only [object.sizeOf_spec, Prod.mk.sizeOf_spec] at this ⊢
    omega

/-- Induction on a value, with its children for its parts. -/
@[elab_as_elim]
theorem induction_children {P : Value → Prop}
    (h : ∀ value, (∀ step child, value.child? step = some child → P child) → P value)
    (value : Value) : P value :=
  h value fun _ child _ => induction_children h child
termination_by value
decreasing_by exact sizeOf_child?_lt ‹_›

theorem Ordered.child {value child : Value} {step : Step} (h : value.Ordered)
    (hchild : value.child? step = some child) : child.Ordered := by
  cases value <;> cases step <;> simp only [child?, reduceCtorEq] at hchild
  · exact orderedItems_iff.mp h _ (List.mem_of_getElem? hchild)
  · exact orderedMembers_iff.mp h.2 _ _ (Members.mem_of_get? hchild)

end Json.Value
namespace Claim

open Json.Value

/-- What a single value has to be for a requirement, its children apart. -/
def Meets : (required received : Value) → Prop
  | .string want, .string got => want = got
  | .number want, .number got => want.same got = true
  | .bool want, .bool got => want = got
  | .array _, .array _ => True
  | .object _, .object _ => True
  | _, _ => False

/-- A key goes to the same key, an element to any element. -/
def Follows : (required received : Step) → Prop
  | .key name, .key name' => name = name'
  | .index _, .index _ => True
  | _, _ => False

/-- A map of the positions of a requirement to positions of a received value that keeps the
structure: the root stays the root, each position goes to one whose value meets what is
required there, and a child goes to a child that it may follow to. -/
structure Embeds (required received : Value) (f : Position → Position) : Prop where
  root : f [] = []
  meets : ∀ p want, required.at? p = some want →
    ∃ got, received.at? (f p) = some got ∧ Meets want got
  child : ∀ p step, (required.at? (p ++ [step])).isSome →
    ∃ step', f (p ++ [step]) = f p ++ [step'] ∧ Follows step step'

/-- Each child of a requirement has a child of the received value to go to. -/
def Branches (R : Value → Value → Prop) (required received : Value) : Prop :=
  ∀ step want, required.child? step = some want →
    ∃ step' got, Follows step step' ∧ received.child? step' = some got ∧ R want got

/-- The maps of the children make a map of the whole. -/
theorem exists_embeds_of_branches {required received : Value} (hmeets : Meets required received)
    (h : Branches (fun want got => ∃ f, Embeds want got f) required received) :
    ∃ f, Embeds required received f := by
  have hchild (step : Step) : ∃ step' f, ∀ want, required.child? step = some want →
      Follows step step' ∧ ∃ got, received.child? step' = some got ∧ Embeds want got f := by
    cases hwant : required.child? step with
    | none => exact ⟨step, id, nofun⟩
    | some want =>
      obtain ⟨step', got, hfollows, hgot, f, hf⟩ := h step want hwant
      refine ⟨step', f, fun want' heq => ?_⟩
      cases heq
      exact ⟨hfollows, got, hgot, hf⟩
  choose target f hchild using hchild
  let whole : Position → Position
    | [] => []
    | step :: rest => target step :: f step rest
  refine ⟨whole, { root := rfl, meets := ?_, child := ?_ }⟩
  · intro p want hwant
    cases p with
    | nil =>
      cases hwant
      exact ⟨received, rfl, hmeets⟩
    | cons step rest =>
      obtain ⟨part, hpart, hwant⟩ := Option.bind_eq_some_iff.mp hwant
      obtain ⟨-, got, hgot, hf⟩ := hchild step part hpart
      obtain ⟨item, hitem, hmeets⟩ := hf.meets rest want hwant
      exact ⟨item, by rw [at?_cons, hgot]; exact hitem, hmeets⟩
  · intro p step hsome
    cases p with
    | nil =>
      obtain ⟨want, hwant⟩ := Option.isSome_iff_exists.mp hsome
      obtain ⟨part, hpart, -⟩ := Option.bind_eq_some_iff.mp hwant
      obtain ⟨hfollows, got, -, hf⟩ := hchild step part hpart
      exact ⟨target step, congrArg (target step :: ·) hf.root, hfollows⟩
    | cons first rest =>
      obtain ⟨want, hwant⟩ := Option.isSome_iff_exists.mp hsome
      obtain ⟨part, hpart, hwant⟩ := Option.bind_eq_some_iff.mp hwant
      obtain ⟨-, got, -, hf⟩ := hchild first part hpart
      obtain ⟨step', heq, hfollows⟩ :=
        hf.child rest step (Option.isSome_iff_exists.mpr ⟨want, hwant⟩)
      exact ⟨step', congrArg (target first :: ·) heq, hfollows⟩

/-- Below a child, a map does not leave the child to which it takes it. -/
theorem Embeds.apply_cons {required received : Value} {f : Position → Position} {step step' : Step}
    (h : Embeds required received f) (hstep : f [step] = [step']) {p : Position}
    (hp : (required.at? (step :: p)).isSome) : f (step :: p) = step' :: (f (step :: p)).tail := by
  induction p using List.reverseRecOn with
  | nil =>
    rw [hstep]
    rfl
  | append_singleton p last ih =>
    rw [← List.cons_append] at hp ⊢
    obtain ⟨next, hnext, -⟩ := h.child (step :: p) last hp
    rw [hnext, ih (isSome_at?_of_append hp)]
    rfl

/-- A map of the whole makes maps of the children. -/
theorem Embeds.branches {required received : Value} {f : Position → Position}
    (h : Embeds required received f) :
    Branches (fun want got => ∃ g, Embeds want got g) required received := by
  intro step want hwant
  have hat (p : Position) : required.at? (step :: p) = want.at? p := by
    rw [at?_cons, hwant, Option.bind_some]
  obtain ⟨step', hstep, hfollows⟩ := h.child [] step (by rw [List.nil_append, hat]; rfl)
  rw [h.root, List.nil_append, List.nil_append] at hstep
  obtain ⟨_, hgot, -⟩ := h.meets [step] want (hat [])
  rw [hstep, at?_cons] at hgot
  obtain ⟨got, hgot, -⟩ := Option.bind_eq_some_iff.mp hgot
  refine ⟨step', got, hfollows, hgot, fun p => (f (step :: p)).tail,
    { root := ?_, meets := ?_, child := ?_ }⟩
  · rw [hstep]
    rfl
  · intro p part hpart
    rw [← hat] at hpart
    obtain ⟨item, hitem, hmeets⟩ := h.meets (step :: p) part hpart
    rw [h.apply_cons hstep (Option.isSome_of_eq_some hpart), at?_cons, hgot] at hitem
    exact ⟨item, hitem, hmeets⟩
  · intro p last hsome
    rw [← hat, ← List.cons_append] at hsome
    obtain ⟨next, hnext, hlast⟩ := h.child (step :: p) last hsome
    refine ⟨next, ?_, hlast⟩
    rw [List.cons_append, h.apply_cons hstep (isSome_at?_of_append hsome)] at hnext
    rw [hnext]
    rfl

theorem exists_embeds_iff {required received : Value} :
    (∃ f, Embeds required received f) ↔ Meets required received ∧
      Branches (fun want got => ∃ f, Embeds want got f) required received := by
  constructor
  · rintro ⟨f, hf⟩
    obtain ⟨got, hgot, hmeets⟩ := hf.meets [] required rfl
    rw [hf.root] at hgot
    cases hgot
    exact ⟨hmeets, hf.branches⟩
  · exact fun h => exists_embeds_of_branches h.1 h.2

theorem meets_bool_iff {required : Value} {got : Bool} :
    Meets required (.bool got) ↔ required = .bool got := by
  cases required <;> simp [Meets]

theorem meets_number_iff {required : Value} {got : Number} :
    Meets required (.number got) ↔ ∃ want, required = .number want ∧ want.same got = true := by
  cases required <;> simp [Meets]

theorem meets_string_iff {required : Value} {got : String} :
    Meets required (.string got) ↔ required = .string got := by
  cases required <;> simp [Meets]

theorem meets_array_iff {required : Value} {got : List Value} :
    Meets required (.array got) ↔ ∃ wants, required = .array wants := by
  cases required <;> simp [Meets]

theorem meets_object_iff {required : Value} {got : Members} :
    Meets required (.object got) ↔ ∃ wants, required = .object wants := by
  cases required <;> simp [Meets]

theorem branches_array_iff {R : Value → Value → Prop} {wants got : List Value} :
    Branches R (.array wants) (.array got) ↔ ∀ want ∈ wants, ∃ item ∈ got, R want item := by
  constructor
  · intro h want hmem
    obtain ⟨i, hwant⟩ := List.getElem?_of_mem hmem
    obtain ⟨step', item, -, hitem, hR⟩ := h (.index i) want hwant
    cases step' with
    | key name => cases hitem
    | index j => exact ⟨item, List.mem_of_getElem? hitem, hR⟩
  · intro h step want hwant
    cases step with
    | key name => cases hwant
    | index i =>
      obtain ⟨item, hmem, hR⟩ := h want (List.mem_of_getElem? hwant)
      obtain ⟨j, hitem⟩ := List.getElem?_of_mem hmem
      exact ⟨.index j, item, trivial, hitem, hR⟩

theorem branches_object_iff {R : Value → Value → Prop} {wants got : Members}
    (h : wants.Sorted) : Branches R (.object wants) (.object got) ↔
      ∀ name want, (name, want) ∈ wants → ∃ item, got.get? name = some item ∧ R want item := by
  simp only [← Members.get?_eq_some_iff_of_sorted h]
  constructor
  · intro hbranches name want hwant
    obtain ⟨step', item, hfollows, hitem, hR⟩ := hbranches (.key name) want hwant
    cases step' with
    | index j => cases hitem
    | key name' =>
      cases hfollows
      exact ⟨item, hitem, hR⟩
  · intro hall step want hwant
    cases step with
    | index i => cases hwant
    | key name =>
      obtain ⟨item, hitem, hR⟩ := hall name want hwant
      exact ⟨.key name, item, rfl, hitem, hR⟩

/-- Containment, one level at a time. -/
theorem contains_iff_branches {required received : Value} (h : required.Ordered) :
    Contains required received ↔ Meets required received ∧ Branches Contains required received := by
  -- A scalar has no child that would have to go anywhere.
  have hleaf (hnone : ∀ step, required.child? step = none) : Branches Contains required received :=
    fun step want hwant => nomatch (hnone step).symm.trans hwant
  cases received with
  | null => exact iff_of_false not_contains_null fun h => by cases required <;> exact h.1
  | bool got =>
    rw [contains_bool_iff, meets_bool_iff]
    refine (and_iff_left_of_imp ?_).symm
    rintro rfl
    exact hleaf fun _ => rfl
  | number got =>
    rw [contains_number_iff, meets_number_iff]
    refine (and_iff_left_of_imp ?_).symm
    rintro ⟨want, rfl, -⟩
    exact hleaf fun _ => rfl
  | string got =>
    rw [contains_string_iff, meets_string_iff]
    refine (and_iff_left_of_imp ?_).symm
    rintro rfl
    exact hleaf fun _ => rfl
  | array got =>
    rw [contains_array_iff, meets_array_iff]
    constructor
    · rintro ⟨wants, rfl, hall⟩
      exact ⟨⟨wants, rfl⟩, branches_array_iff.mpr hall⟩
    · rintro ⟨⟨wants, rfl⟩, hbranches⟩
      exact ⟨wants, rfl, branches_array_iff.mp hbranches⟩
  | object got =>
    rw [contains_object_iff, meets_object_iff]
    constructor
    · rintro ⟨wants, rfl, hall⟩
      exact ⟨⟨wants, rfl⟩, (branches_object_iff h.1).mpr hall⟩
    · rintro ⟨⟨wants, rfl⟩, hbranches⟩
      exact ⟨wants, rfl, (branches_object_iff h.1).mp hbranches⟩

theorem contains_iff_exists_embeds {required : Value} (h : required.Ordered) {received : Value} :
    Contains required received ↔ ∃ f, Embeds required received f := by
  induction required using induction_children generalizing received with
  | h required ih =>
    rw [contains_iff_branches h, exists_embeds_iff]
    refine and_congr_right fun _ => forall₃_congr fun step want hwant => ?_
    simp only [ih step want hwant (h.child hwant)]

/-- The containment law. A claim passes, under whatever name, exactly when there is a map of
positions that keeps the structure; and it passes after any edits that the requirement does not
look at exactly when it passed before them. Values that are read from documents are in order. -/
theorem containment_law {required : Value} (h : required.Ordered) (name : String)
    (received : Value) :
    (checkNamed name required received = .ok () ↔ ∃ f, Embeds required received f) ∧
      ∀ name' received', Relation.EqvGen (Edit (· = required)) received received' →
        (checkNamed name' required received' = .ok () ↔
          checkNamed name required received = .ok ()) := by
  simp only [checkNamed_eq_ok_iff]
  exact ⟨contains_iff_exists_embeds h, fun _ _ hedits => (contains_iff_of_edits hedits).symm⟩

/-- Two entitlements, and a realm that lists a role. -/
def entitlements : Value :=
  .object [("aud", .array [.string "api", .string "web"]),
    ("realm", .object [("roles", .array [.array [.string "admin"]])])]

/-- It may be written in any order. -/
def entitlementsText : String :=
  "\x7b\"realm\": \x7b\"roles\": [[\"admin\"]]\x7d, \"aud\": [\"api\", \"web\"]\x7d"

def granted : Value :=
  .object [("aud", .array [.string "api", .string "web"]),
    ("realm", .object [("roles", .array [.null, .array [.string "user", .string "admin"]])])]

/-- The same with an audience in other places and more often, and with a name for the realm. -/
def regranted : Value :=
  .object [("aud", .array [.string "web", .string "web", .string "api"]),
    ("realm", .object [("name", .null),
      ("roles", .array [.null, .array [.string "user", .string "admin"]])])]

theorem edits_granted : Relation.EqvGen (Edit (· = entitlements)) granted regranted := by
  let audience (names : List Value) : Value := .object [("aud", .array names),
    ("realm", .object [("roles", .array [.null, .array [.string "user", .string "admin"]])])]
  have hreordered : Edit (· = entitlements) granted (audience [.string "web", .string "api"]) :=
    .member [] _ "aud" (.reorder (List.Perm.swap ..))
  have hrepeated : Edit (· = entitlements) (audience [.string "web", .string "api"])
      (audience [.string "web", .string "web", .string "api"]) :=
    .member [] _ "aud" (.duplicate (List.mem_cons_self ..))
  refine .trans _ _ _ (.rel _ _ hreordered) (.trans _ _ _ (.rel _ _ hrepeated) (.rel _ _ ?_))
  refine .member [_] [] "realm" (.extra ?_)
  rintro wants name want ⟨policy, hpolicy, hrealm⟩ hname
  cases hpolicy
  obtain rfl : wants = [("roles", .array [.array [.string "admin"]])] := by simpa using hrealm
  obtain ⟨rfl, -⟩ : name = "roles" ∧ _ := by simpa using hname
  rfl

/-- A policy that a token meets, in whatever order and with whatever else it comes. -/
theorem containment_law_entitlements :
    Value.read? entitlementsText = some entitlements ∧ entitlements.Ordered ∧
      (∃ f, Embeds entitlements granted f) ∧
        checkNamed "claims" entitlements regranted = .ok () := by
  have hread : Value.read? entitlementsText = some entitlements := by cbv
  have hordered := Value.ordered_of_read? hread
  have hpasses : checkNamed "token" entitlements granted = .ok () := rfl
  obtain ⟨hlaw, hedits⟩ := containment_law hordered "token" granted
  exact ⟨hread, hordered, hlaw.mp hpasses, (hedits "claims" regranted edits_granted).mpr hpasses⟩

end Claim
end BearerAuth
