import BearerAuth.Proofs.Claim.Numbers
import BearerAuth.Proofs.Claim.Positions
import BearerAuth.Proofs.Validation.Policy

/-!
# Growing claims and shrinking policies

A value lies within a larger one if all that it has is found there, at every depth. Who meets a
requirement meets it still after growing, and meets every smaller one. Additions of any kind make
a value larger in this sense.
-/
namespace BearerAuth

open Json

namespace Json

namespace Number

/-- Two numbers are one scalar: they have one value, and below `2 ^ 53` it does not matter in which
form. From there on, an integer compares as another than the double of its value. -/
def Identical (a b : Number) : Prop :=
  a.units = b.units ∧
    (a.isInteger = b.isInteger ∨ a.units.natAbs < 2 ^ 53 * Binary64.unitsPerOne)

theorem Blurs.large {a b : Number} (h : a.Blurs b) :
    2 ^ 53 * Binary64.unitsPerOne ≤ a.units.natAbs ∧
      2 ^ 53 * Binary64.unitsPerOne ≤ b.units.natAbs := by
  cases a with
  | double x => cases h
  | integer n fits =>
    have hn : 2 ^ 53 * Binary64.unitsPerOne ≤ (integer n fits).units.natAbs := by
      rw [units_integer, Int.natAbs_mul, Int.natAbs_natCast]
      exact Nat.mul_le_mul_right _ h.long.le
    refine ⟨hn, ?_⟩
    cases b with
    | integer m hm => cases h
    | double x =>
      -- If the double were small, then one of these two would be nearer to the integer.
      obtain ⟨above, habove⟩ := Binary64.exists_units_eq (n := 2 ^ 53) (by decide)
      obtain ⟨beneath, hbeneath⟩ := Binary64.exists_units_eq (n := -2 ^ 53) (by decide)
      have hleft := h.2.nearest above
      have hright := h.2.nearest beneath
      simp only [Binary64.distance, habove, hbeneath, units_integer, units_double]
        at hn hleft hright ⊢
      generalize n * (Binary64.unitsPerOne : Int) = value at hn hleft hright
      omega

theorem same_iff_of_small {a : Number} (h : a.units.natAbs < 2 ^ 53 * Binary64.unitsPerOne)
    (b : Number) : a.same b = true ↔ a.units = b.units := by
  rw [same_iff]
  constructor
  · rintro (heq | hblurs | hblurs)
    · exact heq
    · exact absurd hblurs.large.1 (Nat.not_le.mpr h)
    · exact absurd hblurs.large.2 (Nat.not_le.mpr h)
  · exact .inl

theorem same_of_form {a a' : Number} (hform : a.isInteger = a'.isInteger)
    (hunits : a.units = a'.units) (b : Number) : a.same b = a'.same b := by
  cases a with
  | integer m hm =>
    cases a' with
    | double x => cases hform
    | integer n hn =>
      obtain rfl := (units_integer_inj hm hn).mp hunits
      rfl
  | double x =>
    cases a' with
    | integer n hn => cases hform
    | double y =>
      rw [units_double, units_double] at hunits
      rw [Bool.eq_iff_iff]
      cases b with
      | integer n hn =>
        rw [same_double_integer, same_double_integer]
        exact Binary64.isNearest_congr hunits
      | double z => rw [same_doubles, same_doubles, hunits]

namespace Identical

variable {a a' b b' : Number}

theorem refl (a : Number) : a.Identical a := ⟨rfl, .inl rfl⟩

theorem trans {c : Number} (hab : a.Identical b) (hbc : b.Identical c) : a.Identical c := by
  refine ⟨hab.1.trans hbc.1, ?_⟩
  rcases hab.2 with hform | hsmall
  · rcases hbc.2 with hform' | hsmall
    · exact .inl (hform.trans hform')
    · exact .inr (hab.1 ▸ hsmall)
  · exact .inr hsmall

theorem same_left (h : a.Identical a') : a.same b = a'.same b := by
  obtain ⟨hunits, hform | hsmall⟩ := h
  · exact same_of_form hform hunits b
  · rw [Bool.eq_iff_iff, same_iff_of_small hsmall, same_iff_of_small (hunits ▸ hsmall), hunits]

theorem same_right (h : b.Identical b') : a.same b = a.same b' := by
  rw [same_comm, h.same_left, same_comm]

end Identical
end Number

namespace Value

/-- The first value lies within the second, the larger one. They are the same scalar or both null,
each element has a larger one, and each key leads to a larger value. -/
inductive Within : (smaller larger : Value) → Prop
  | null : Within .null .null
  | bool (value : Bool) : Within (.bool value) (.bool value)
  | number {a b : Number} (h : a.Identical b) : Within (.number a) (.number b)
  | string (text : String) : Within (.string text) (.string text)
  | array {items items' : List Value} (target : Value → Value)
      (hmem : ∀ item ∈ items, target item ∈ items')
      (h : ∀ item ∈ items, Within item (target item)) : Within (.array items) (.array items')
  | object {members members' : Members} (target : String → Value → Value)
      (hget : ∀ name value, (name, value) ∈ members →
        members'.get? name = some (target name value))
      (h : ∀ name value, (name, value) ∈ members → Within value (target name value)) :
      Within (.object members) (.object members')

theorem within_array_iff {items items' : List Value} :
    (array items).Within (array items') ↔ ∀ item ∈ items, ∃ item' ∈ items', item.Within item' := by
  constructor
  · intro h item hitem
    cases h with
    | array target hmem h => exact ⟨target item, hmem item hitem, h item hitem⟩
  · intro h
    choose! target hmem hwithin using h
    exact .array target hmem hwithin

theorem within_object_iff {members members' : Members} :
    (object members).Within (object members') ↔ ∀ name value, (name, value) ∈ members →
      ∃ value', members'.get? name = some value' ∧ value.Within value' := by
  constructor
  · intro h name value hmem
    cases h with
    | object target hget h => exact ⟨target name value, hget name value hmem, h name value hmem⟩
  · intro h
    choose! target hget hwithin using h
    exact .object target hget hwithin

theorem Within.refl {value : Value} (h : value.Ordered) : value.Within value := by
  induction value using induction_children with
  | h value ih =>
    cases value with
    | null => exact .null
    | bool value => exact .bool value
    | number number => exact .number (.refl number)
    | string text => exact .string text
    | array items =>
      refine within_array_iff.mpr fun item hmem => ⟨item, hmem, ?_⟩
      obtain ⟨i, hi⟩ := List.getElem?_of_mem hmem
      exact ih (.index i) item hi (orderedItems_iff.mp h item hmem)
    | object members =>
      refine within_object_iff.mpr fun name value hmem => ?_
      have hget := (Members.get?_eq_some_iff_of_sorted h.1).mpr hmem
      exact ⟨value, hget, ih (.key name) value hget (orderedMembers_iff.mp h.2 name value hmem)⟩

theorem Within.trans {a b c : Value} (hab : a.Within b) (hbc : b.Within c) : a.Within c := by
  induction hab generalizing c with
  | null => exact hbc
  | bool value => exact hbc
  | number h =>
    cases hbc with
    | number h' => exact .number (h.trans h')
  | string text => exact hbc
  | array target hmem _ ih =>
    cases hbc with
    | array target' hmem' h' =>
      exact .array (target' ∘ target) (fun item hitem => hmem' _ (hmem item hitem))
        fun item hitem => ih item hitem (h' _ (hmem item hitem))
  | @object members members' target hget _ ih =>
    cases hbc with
    | object target' hget' h' =>
      have hmem (name : String) (value : Value) (h : (name, value) ∈ members) :
          (name, target name value) ∈ members' := Members.mem_of_get? (hget name value h)
      exact .object (fun name value => target' name (target name value))
        (fun name value h => hget' _ _ (hmem name value h))
        fun name value h => ih name value h (h' _ _ (hmem name value h))

/-! ## Additions -/

/-- Something is added to a value, at any depth, or a sequence is put into another order. -/
inductive Grows : Value → Value → Prop
  | element (before after : List Value) {item : Value} (h : item.Ordered) :
      Grows (.array (before ++ after)) (.array (before ++ item :: after))
  | reorder {items items' : List Value} (h : items.Perm items') :
      Grows (.array items) (.array items')
  | key (members : Members) (name : String) {value : Value} (hfresh : members.get? name = none)
      (h : value.Ordered) : Grows (.object members) (.object (members.insert name value))
  | inElement (before after : List Value) {item item' : Value} (h : Grows item item') :
      Grows (.array (before ++ item :: after)) (.array (before ++ item' :: after))
  | inMember (before after : Members) (name : String) {value value' : Value}
      (h : Grows value value') :
      Grows (.object (before ++ (name, value) :: after))
        (.object (before ++ (name, value') :: after))

theorem Grows.ordered {value value' : Value} (h : Grows value value') (hordered : value.Ordered) :
    value'.Ordered := by
  induction h with
  | element before after h =>
    have hitems := orderedItems_iff.mp hordered
    refine orderedItems_iff.mpr ?_
    simp only [List.forall_mem_append, List.forall_mem_cons] at hitems ⊢
    exact ⟨hitems.1, h, hitems.2⟩
  | reorder hperm =>
    exact orderedItems_iff.mpr fun item hmem =>
      orderedItems_iff.mp hordered item (hperm.mem_iff.mpr hmem)
  | key members name hfresh h => exact ordered_insert hordered _ h
  | inElement before after _ ih =>
    have hitems := orderedItems_iff.mp hordered
    refine orderedItems_iff.mpr ?_
    simp only [List.forall_mem_append, List.forall_mem_cons] at hitems ⊢
    exact ⟨hitems.1, ih hitems.2.1, hitems.2.2⟩
  | inMember before after name _ ih =>
    obtain ⟨hsorted, hmembers⟩ := hordered
    refine ⟨?_, orderedMembers_iff.mpr ?_⟩
    · simpa only [Members.Sorted, List.pairwise_append, List.pairwise_cons,
        List.forall_mem_cons] using hsorted
    · rw [orderedMembers_iff] at hmembers
      simp only [← Prod.forall', List.forall_mem_append, List.forall_mem_cons] at hmembers ⊢
      exact ⟨hmembers.1, ih hmembers.2.1, hmembers.2.2⟩

theorem Grows.within {value value' : Value} (h : Grows value value') (hordered : value.Ordered) :
    value.Within value' := by
  have hgrown := h.ordered hordered
  induction h with
  | element before after h =>
    refine within_array_iff.mpr fun item hmem => ⟨item, ?_, ?_⟩
    · exact List.perm_middle.mem_iff.mpr (List.mem_cons_of_mem _ hmem)
    · exact .refl (orderedItems_iff.mp hordered item hmem)
  | reorder hperm =>
    exact within_array_iff.mpr fun item hmem =>
      ⟨item, hperm.mem_iff.mp hmem, .refl (orderedItems_iff.mp hordered item hmem)⟩
  | key members name hfresh h =>
    refine within_object_iff.mpr fun key other hmem => ?_
    have hget := (Members.get?_eq_some_iff_of_sorted hordered.1).mpr hmem
    have hkey : name ≠ key := by
      rintro rfl
      exact nomatch hfresh.symm.trans hget
    exact ⟨other, by rw [Members.get?_insert, if_neg hkey, hget],
      .refl (orderedMembers_iff.mp hordered.2 key other hmem)⟩
  -- Beside the part that has grown, everything lies within itself.
  | @inElement before after item item' _ ih =>
    have hitem : item.Within item' := ih (orderedItems_iff.mp hordered item (by simp))
      (orderedItems_iff.mp hgrown item' (by simp))
    refine within_array_iff.mpr fun other hmem => ?_
    rcases List.mem_cons.mp (List.perm_middle.mem_iff.mp hmem) with rfl | hrest
    · exact ⟨item', by simp, hitem⟩
    · exact ⟨other, List.perm_middle.mem_iff.mpr (List.mem_cons_of_mem _ hrest),
        .refl (orderedItems_iff.mp hordered other hmem)⟩
  | @inMember before after name value value' _ ih =>
    have hvalue : value.Within value' := ih (orderedMembers_iff.mp hordered.2 name value (by simp))
      (orderedMembers_iff.mp hgrown.2 name value' (by simp))
    refine within_object_iff.mpr fun key other hmem => ?_
    simp only [Members.get?_eq_some_iff_of_sorted hgrown.1]
    rcases List.mem_cons.mp (List.perm_middle.mem_iff.mp hmem) with heq | hrest
    · cases heq
      exact ⟨value', by simp, hvalue⟩
    · exact ⟨other, List.perm_middle.mem_iff.mpr (List.mem_cons_of_mem _ hrest),
        .refl (orderedMembers_iff.mp hordered.2 key other hmem)⟩

/-- Any number of additions make a value larger. -/
theorem within_of_grows {value value' : Value} (h : Relation.ReflTransGen Grows value value')
    (hordered : value.Ordered) : value.Within value' := by
  have hgrown : value'.Ordered ∧ value.Within value' := by
    induction h with
    | refl => exact ⟨hordered, .refl hordered⟩
    | tail _ hstep ih => exact ⟨hstep.ordered ih.1, ih.2.trans (hstep.within ih.1)⟩
  exact hgrown.2

end Value
end Json

open Json.Value

namespace Claim

/-- The law of growth: whoever meets a requirement meets it still with more, and meets less. -/
theorem Contains.mono {required required' received received' : Value}
    (h : Contains required received) (hless : required'.Within required)
    (hmore : received.Within received') : Contains required' received' := by
  induction hmore generalizing required required' with
  | null => exact absurd h not_contains_null
  | bool got =>
    rw [contains_bool_iff] at h ⊢
    subst h
    cases hless
    rfl
  | number hgot =>
    obtain ⟨want, rfl, hsame⟩ := contains_number_iff.mp h
    cases hless with
    | number hwant =>
      exact contains_number_iff.mpr ⟨_, rfl, by rwa [hwant.same_left, ← hgot.same_right]⟩
  | string got =>
    rw [contains_string_iff] at h ⊢
    subst h
    cases hless
    rfl
  | array target hmem _ ih =>
    obtain ⟨wants, rfl, hall⟩ := contains_array_iff.mp h
    cases hless with
    | array source hsource hsmaller =>
      refine contains_array_iff.mpr ⟨_, rfl, fun want hwant => ?_⟩
      -- The element that met the larger requirement meets the smaller one after it has grown.
      obtain ⟨item, hitem, hmet⟩ := hall (source want) (hsource want hwant)
      exact ⟨target item, hmem item hitem, ih item hitem hmet (hsmaller want hwant)⟩
  | object target hget _ ih =>
    obtain ⟨wants, rfl, hall⟩ := contains_object_iff.mp h
    cases hless with
    | object source hsource hsmaller =>
      refine contains_object_iff.mpr ⟨_, rfl, fun name want hwant => ?_⟩
      obtain ⟨item, hitem, hmet⟩ :=
        hall name (source name want) (Members.mem_of_get? (hsource name want hwant))
      have hmem := Members.mem_of_get? hitem
      exact ⟨target name item, hget name item hmem,
        ih name item hmem hmet (hsmaller name want hwant)⟩

theorem checkMembers_mono {required required' received received' : Members}
    (h : checkMembers required received = .ok ())
    (hless : (object required').Within (.object required))
    (hmore : (object received).Within (.object received')) :
    checkMembers required' received' = .ok () := by
  have hcontains : Contains (.object required) (.object received) := h
  exact hcontains.mono hless hmore

end Claim

/-- What the first policy requires, if anything, lies within what the second one requires. -/
def Policy.AsksNoMore (fewer policy : Policy) : Prop :=
  ∀ required', fewer.requiredClaims = some required' →
    ∃ required, policy.requiredClaims = some required ∧
      (object required').Within (.object required)

namespace Claim

theorem checkRequiredClaims_mono {fewer policy : Policy} {claims claims' : Members}
    (h : policy.checkRequiredClaims claims = .ok ()) (hless : fewer.AsksNoMore policy)
    (hmore : (object claims).Within (.object claims')) :
    fewer.checkRequiredClaims claims' = .ok () := by
  refine Policy.checkRequiredClaims_eq_ok_iff.mpr fun required' hfewer => ?_
  obtain ⟨required, hpolicy, hwithin⟩ := hless required' hfewer
  exact checkMembers_mono (Policy.checkRequiredClaims_eq_ok_iff.mp h required hpolicy) hwithin hmore

/-- Containment is monotone, for a claim of whatever name, for the members of an object and for
the required claims of a policy. Additions at any depth and other orders of sequences, of which
there may be any number, make a received value larger and, undone, a requirement smaller. -/
theorem containment_monotone :
    (∀ required required' received received' : Value, required'.Within required →
      received.Within received' → ∀ name name', checkNamed name required received = .ok () →
        checkNamed name' required' received' = .ok ()) ∧
      (∀ required required' received received' : Members,
        (object required').Within (.object required) →
          (object received).Within (.object received') →
            checkMembers required received = .ok () →
              checkMembers required' received' = .ok ()) ∧
        (∀ (policy fewer : Policy) (claims claims' : Members), fewer.AsksNoMore policy →
          (object claims).Within (.object claims') → policy.checkRequiredClaims claims = .ok () →
            fewer.checkRequiredClaims claims' = .ok ()) ∧
          ∀ value value' : Value, value.Ordered → Relation.ReflTransGen Grows value value' →
            value.Within value' := by
  refine ⟨?_, ?_, ?_, ?_⟩
  · intro required required' received received' hless hmore name name' h
    rw [checkNamed_eq_ok_iff] at h ⊢
    exact h.mono hless hmore
  · exact fun _ _ _ _ hless hmore h => checkMembers_mono h hless hmore
  · exact fun _ _ _ _ hless hmore h => checkRequiredClaims_mono h hless hmore
  · exact fun _ _ hordered h => within_of_grows h hordered

/-- A number of the same value does not do: the double meets `2 ^ 53 + 1`, which is rounded to it,
and the integer does not. -/
example : evenBelow.units = below.units ∧ Contains (.number halfway) (.number evenBelow) ∧
    ¬ Contains (.number halfway) (.number below) := by
  simp only [contains_number_number_iff]
  decide +kernel

/-- A role and a scope are asked for. -/
def roleAndScope : Policy :=
  ⟨"issuer", none, none, some [("realm", .object [("roles", .array [.string "admin"])]),
    ("scope", .string "read")], .ofSeconds 0⟩

/-- Of these, only the realm is asked for. -/
def realmAlone : Policy :=
  ⟨"issuer", none, none, some [("realm", .object [("roles", .array [])])], .ofSeconds 0⟩

def issued : Members :=
  [("realm", .object [("roles", .array [.string "user", .string "admin"])]),
    ("scope", .string "read")]

/-- The same with another audience, a further role and the roles in another order. -/
def reissued : Members :=
  [("aud", .null),
    ("realm", .object [("roles", .array [.string "admin", .string "root", .string "user"])]),
    ("scope", .string "read")]

theorem grows_issued : Relation.ReflTransGen Grows (.object issued) (.object reissued) := by
  let realm (roles : List Value) : Value := .object [("realm", .object [("roles", .array roles)]),
    ("scope", .string "read")]
  have hordered : Grows (realm [.string "user", .string "admin"])
      (realm [.string "admin", .string "user"]) :=
    .inMember [] _ "realm" (.inMember [] [] "roles" (.reorder (List.Perm.swap ..)))
  have hrole : Grows (realm [.string "admin", .string "user"])
      (realm [.string "admin", .string "root", .string "user"]) :=
    .inMember [] _ "realm" (.inMember [] [] "roles" (.element [_] [_] trivial))
  have haudience : Grows (realm [.string "admin", .string "root", .string "user"])
      (.object reissued) := .key _ "aud" rfl trivial
  exact .tail (.tail (.single hordered) hrole) haudience

theorem containment_monotone_reissued :
    roleAndScope.checkRequiredClaims issued = .ok () ∧
      roleAndScope.checkRequiredClaims reissued = .ok () ∧
        realmAlone.checkRequiredClaims reissued = .ok () := by
  obtain ⟨-, -, hpolicy, hgrows⟩ := containment_monotone
  have hmet : roleAndScope.checkRequiredClaims issued = .ok () := rfl
  have hissued : (object issued).Within (.object reissued) := hgrows _ _ (by decide) grows_issued
  have hall : roleAndScope.AsksNoMore roleAndScope := by
    intro required hrequired
    cases hrequired
    exact ⟨_, rfl, .refl (by decide)⟩
  have hless : realmAlone.AsksNoMore roleAndScope := by
    intro required hrequired
    cases hrequired
    have hrole : Grows (.object [("realm", .object [("roles", .array [])])])
        (.object [("realm", .object [("roles", .array [.string "admin"])])]) :=
      .inMember [] _ "realm" (.inMember [] [] "roles" (.element [] [] trivial))
    have hscope : Grows (.object [("realm", .object [("roles", .array [.string "admin"])])])
        (.object [("realm", .object [("roles", .array [.string "admin"])]),
          ("scope", .string "read")]) := .key _ "scope" rfl trivial
    exact ⟨_, rfl, hgrows _ _ (by decide) (.tail (.single hrole) hscope)⟩
  exact ⟨hmet, hpolicy _ _ _ _ hall hissued hmet, hpolicy _ _ _ _ hless hissued hmet⟩

end Claim
end BearerAuth
