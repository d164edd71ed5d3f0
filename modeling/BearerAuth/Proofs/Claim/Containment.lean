import BearerAuth.Claim.Containment
import BearerAuth.Proofs.Json.Order
import Mathlib.Logic.Relation

/-!
# When a value contains another

The check of a requirement as a relation of two values, with one equivalence for each shape of
the received value. The received value may then be edited in every way that the requirement
does not look at: the relation holds before an edit exactly when it holds after it.
-/
namespace BearerAuth.Claim

open Json

/-- A received value meets a requirement. -/
def Contains (required received : Value) : Prop := check required received = .ok ()

@[simp] theorem checkScalar_eq_ok_iff {equal : Bool} :
    checkScalar equal = .ok () ↔ equal = true := by
  cases equal <;> simp [checkScalar]

/-- Under whatever name a claim is checked, it passes when its value does. -/
theorem checkNamed_eq_ok_iff {name : String} {required received : Value} :
    checkNamed name required received = .ok () ↔ Contains required received := by
  unfold checkNamed Contains
  cases check required received <;> simp

theorem isOk_check_iff {required received : Value} :
    (check required received).isOk = true ↔ Contains required received := by
  unfold Contains
  cases check required received <;> simp [Except.isOk, Except.toBool]

theorem covers_iff {required received : List Value} :
    covers required received = true ↔
      ∀ want ∈ required, ∃ got ∈ received, Contains want got := by
  induction required with
  | nil => simp [covers]
  | cons want rest ih => simp [covers, ih, isOk_check_iff]

theorem checkMembers_eq_ok_iff {required received : Members} :
    checkMembers required received = .ok () ↔
      ∀ name want, (name, want) ∈ required →
        ∃ got, received.get? name = some got ∧ Contains want got := by
  induction required with
  | nil => simp [checkMembers]
  | cons head rest ih =>
    obtain ⟨first, want⟩ := head
    have hhead : (∀ name want', (name, want') ∈ (first, want) :: rest →
        ∃ got, received.get? name = some got ∧ Contains want' got) ↔
          (∃ got, received.get? first = some got ∧ Contains want got) ∧
            checkMembers rest received = .ok () := by
      rw [ih]
      constructor
      · exact fun h => ⟨h first want (List.mem_cons_self ..),
          fun name want' hmem => h name want' (List.mem_cons_of_mem _ hmem)⟩
      · rintro ⟨hfirst, hrest⟩ name want' hmem
        rcases List.mem_cons.mp hmem with heq | hmem
        · cases heq
          exact hfirst
        · exact hrest name want' hmem
    rw [hhead, checkMembers]
    split
    · next hnone => simp [hnone]
    · next got hsome =>
      simp only [hsome, Option.some.injEq, exists_eq_left']
      unfold Contains
      cases check want got <;> simp

/-! One equivalence for each shape of the received value. -/

theorem not_contains_null {required : Value} : ¬ Contains required .null := by
  unfold Contains
  cases required <;> exact nofun

theorem contains_bool_iff {required : Value} {got : Bool} :
    Contains required (.bool got) ↔ required = .bool got := by
  unfold Contains
  cases required <;> simp [check]

theorem contains_number_iff {required : Value} {got : Number} :
    Contains required (.number got) ↔ ∃ want, required = .number want ∧ want.same got = true := by
  unfold Contains
  cases required <;> simp [check]

theorem contains_string_iff {required : Value} {got : String} :
    Contains required (.string got) ↔ required = .string got := by
  unfold Contains
  cases required <;> simp [check]

theorem contains_array_iff {required : Value} {got : List Value} :
    Contains required (.array got) ↔
      ∃ wants, required = .array wants ∧ ∀ want ∈ wants, ∃ item ∈ got, Contains want item := by
  simp only [← covers_iff]
  unfold Contains
  cases required <;> simp [check]

theorem contains_object_iff {required : Value} {got : Members} :
    Contains required (.object got) ↔
      ∃ wants, required = .object wants ∧ ∀ name want, (name, want) ∈ wants →
        ∃ item, got.get? name = some item ∧ Contains want item := by
  simp only [← checkMembers_eq_ok_iff]
  unfold Contains
  cases required <;> simp [check]

/-- A value with something changed that requirements do not look at. The requirements that may
meet the value are given, and they decide which keys are extra: those that none of them
names. -/
inductive Edit : (looked : Value → Prop) → Value → Value → Prop
  | reorder {looked : Value → Prop} {items items' : List Value} (h : items.Perm items') :
      Edit looked (.array items) (.array items')
  | duplicate {looked : Value → Prop} {items : List Value} {item : Value} (h : item ∈ items) :
      Edit looked (.array items) (.array (item :: items))
  | extra {looked : Value → Prop} {members members' : Members}
      (h : ∀ wants name want, looked (.object wants) → (name, want) ∈ wants →
        members.get? name = members'.get? name) :
      Edit looked (.object members) (.object members')
  | element {looked : Value → Prop} {item item' : Value} (before after : List Value)
      (h : Edit (fun want => ∃ wants, looked (.array wants) ∧ want ∈ wants) item item') :
      Edit looked (.array (before ++ item :: after)) (.array (before ++ item' :: after))
  | member {looked : Value → Prop} {item item' : Value} (before after : Members) (name : String)
      (h : Edit (fun want => ∃ wants, looked (.object wants) ∧ (name, want) ∈ wants) item item') :
      Edit looked (.object (before ++ (name, item) :: after))
        (.object (before ++ (name, item') :: after))

theorem contains_iff_of_edit {looked : Value → Prop} {received received' : Value}
    (h : Edit looked received received') {required : Value} (hlooked : looked required) :
    Contains required received ↔ Contains required received' := by
  induction h generalizing required with
  | reorder hperm => simp only [contains_array_iff, hperm.mem_iff]
  | @duplicate looked items item hmem =>
    have hsame (value : Value) : value ∈ item :: items ↔ value ∈ items :=
      ⟨fun h => (List.mem_cons.mp h).elim (· ▸ hmem) id, List.mem_cons_of_mem _⟩
    simp only [contains_array_iff, hsame]
  | extra hagree =>
    rw [contains_object_iff, contains_object_iff]
    refine exists_congr fun wants => and_congr_right fun heq => ?_
    subst heq
    refine forall₃_congr fun name want hmem => ?_
    rw [hagree wants name want hlooked hmem]
  | element before after _ ih =>
    rw [contains_array_iff, contains_array_iff]
    refine exists_congr fun wants => and_congr_right fun heq => ?_
    subst heq
    refine forall₂_congr fun want hmem => ?_
    simp [or_and_right, exists_or, ih ⟨wants, hlooked, hmem⟩]
  | member before after name _ ih =>
    rw [contains_object_iff, contains_object_iff]
    refine exists_congr fun wants => and_congr_right fun heq => ?_
    subst heq
    refine forall₃_congr fun key want hmem => ?_
    simp only [Members.get?_append_cons]
    -- Only the edited member itself has to be looked at: the others are the same on both sides.
    cases Members.get? before key with
    | some found => rfl
    | none =>
      by_cases hkey : name = key
      · subst hkey
        simpa using ih ⟨wants, hlooked, hmem⟩
      · simp [hkey]

/-- Any number of edits, in both directions, leave what a requirement finds. -/
theorem contains_iff_of_edits {required received received' : Value}
    (h : Relation.EqvGen (Edit (· = required)) received received') :
    Contains required received ↔ Contains required received' := by
  induction h with
  | rel _ _ hedit => exact contains_iff_of_edit hedit rfl
  | refl _ => rfl
  | symm _ _ _ ih => exact ih.symm
  | trans _ _ _ _ _ ih ih' => exact ih.trans ih'

end BearerAuth.Claim
