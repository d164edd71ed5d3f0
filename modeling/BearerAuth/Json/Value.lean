import BearerAuth.Number.Binary64

/-!
# JSON values

What a document means: numbers are integers of sixty-four bits or doubles, an object is a
list of members whose keys strictly increase. Strings are ordered by code point, which for
valid text is the order of their UTF-8 bytes.
-/
namespace BearerAuth.Json

/-- Integers that a signed or an unsigned word of sixty-four bits holds. -/
def FitsWord (n : Int) : Prop := -2 ^ 63 ≤ n ∧ n < 2 ^ 64

instance (n : Int) : Decidable (FitsWord n) := inferInstanceAs (Decidable (_ ∧ _))

/-- A number as a document holds it. -/
inductive Number
  | integer (value : Int) (fits : FitsWord value)
  | double (value : Binary64)
  deriving DecidableEq, Repr

namespace Number

/-- The exact value in units of `2 ^ (-1074)`. -/
def units : Number → Int
  | integer value _ => value * Binary64.unitsPerOne
  | double value => value.units

/-- The nearest double. -/
def toBinary64? : Number → Option Binary64
  | integer value _ => Binary64.ofInt? value
  | double value => some value

/-- Two integers are the same number when they are equal; as soon as a double takes part,
both sides are compared as doubles. -/
def same (a b : Number) : Bool :=
  match a, b with
  | integer x _, integer y _ => x = y
  | a, b =>
    match a.toBinary64?, b.toBinary64? with
    | some x, some y => x.units = y.units
    | _, _ => false

end Number

inductive Value
  | null
  | bool (value : Bool)
  | number (value : Number)
  | string (value : String)
  | array (items : List Value)
  | object (members : List (String × Value))
  deriving Repr

/-- Members of an object. -/
abbrev Members := List (String × Value)

namespace Members

/-- The value under a key. -/
def get? : Members → String → Option Value
  | [], _ => none
  | (name, value) :: rest, key => if name = key then some value else get? rest key

/-- Put a value under a key, at the place that the order of keys gives it. -/
def insert : Members → String → Value → Members
  | [], key, value => [(key, value)]
  | (name, old) :: rest, key, value =>
    if key < name then (key, value) :: (name, old) :: rest
    else if key = name then (key, value) :: rest
    else (name, old) :: insert rest key value

/-- Remove the value under a key. -/
def erase (members : Members) (key : String) : Members :=
  members.filter fun member => member.1 ≠ key

/-- The members that remain when each pair in turn is inserted: a later value under the
same key replaces an earlier one. -/
def ofPairs (pairs : List (String × Value)) : Members :=
  pairs.foldl (fun members pair => members.insert pair.1 pair.2) []

/-- Keys strictly increase. -/
def Sorted (members : Members) : Prop :=
  members.Pairwise fun left right => left.1 < right.1

@[simp] theorem get?_insert (members : Members) (key name : String) (value : Value) :
    (members.insert key value).get? name =
      if key = name then some value else members.get? name := by
  induction members with
  | nil => simp [insert, get?]
  | cons head rest ih =>
    obtain ⟨first, old⟩ := head
    simp only [insert]
    split
    · simp [get?]
    · split
      · rename_i h; subst h; simp only [get?]; split <;> rfl
      · rename_i _ h
        simp only [get?, ih]
        by_cases hf : first = name
        · subst hf; simp [h]
        · simp [hf]

@[simp] theorem get?_erase (members : Members) (key name : String) :
    (members.erase key).get? name = if key = name then none else members.get? name := by
  induction members with
  | nil => simp [erase, get?]
  | cons head rest ih =>
    obtain ⟨first, old⟩ := head
    simp only [erase] at ih ⊢
    by_cases hk : first = key
    · subst hk
      simp only [List.filter_cons, ne_eq, not_true_eq_false, decide_false, Bool.false_eq_true,
        if_false, ih, get?]
      split <;> rfl
    · simp only [List.filter_cons, ne_eq, hk, not_false_eq_true, decide_true, if_true, get?, ih]
      by_cases hf : first = name
      · subst hf; simp [Ne.symm hk]
      · simp [hf]

end Members

namespace Value

def string? : Value → Option String
  | string text => some text
  | _ => none

def array? : Value → Option (List Value)
  | array items => some items
  | _ => none

def object? : Value → Option Members
  | object members => some members
  | _ => none

/-- The value under a key of an object. -/
def get? (value : Value) (key : String) : Option Value :=
  value.object?.bind (·.get? key)

theorem string?_eq_some_iff {value : Value} {text : String} :
    value.string? = some text ↔ value = string text := by
  cases value <;> simp [string?]

/-- A text is found exactly where a string is. -/
theorem bind_string?_eq_some_iff {found : Option Value} {text : String} :
    found.bind string? = some text ↔ found = some (string text) := by
  simp only [Option.bind_eq_some_iff, string?_eq_some_iff, exists_eq_right]

theorem array?_eq_some_iff {value : Value} {items : List Value} :
    value.array? = some items ↔ value = array items := by
  cases value <;> simp [array?]

theorem object?_eq_some_iff {value : Value} {members : Members} :
    value.object? = some members ↔ value = object members := by
  cases value <;> simp [object?]

theorem get?_eq_some_iff {value found : Value} {key : String} :
    value.get? key = some found ↔
      ∃ members, value = object members ∧ Members.get? members key = some found := by
  simp only [get?, Option.bind_eq_some_iff, object?_eq_some_iff]

mutual
/-- All objects in the value have strictly increasing keys. -/
def Ordered : Value → Prop
  | array items => OrderedItems items
  | object members => Members.Sorted members ∧ OrderedMembers members
  | _ => True

def OrderedItems : List Value → Prop
  | [] => True
  | item :: rest => item.Ordered ∧ OrderedItems rest

def OrderedMembers : List (String × Value) → Prop
  | [] => True
  | (_, value) :: rest => value.Ordered ∧ OrderedMembers rest
end

instance (members : Members) : Decidable members.Sorted :=
  inferInstanceAs (Decidable (List.Pairwise _ _))

mutual
def decideOrdered : (value : Value) → Decidable value.Ordered
  | array items => decideOrderedItems items
  | object members =>
    letI := decideOrderedMembers members
    inferInstanceAs (Decidable (Members.Sorted members ∧ OrderedMembers members))
  | null | bool _ | number _ | string _ => isTrue trivial

def decideOrderedItems : (items : List Value) → Decidable (OrderedItems items)
  | [] => isTrue trivial
  | item :: rest =>
    letI := decideOrdered item
    letI := decideOrderedItems rest
    inferInstanceAs (Decidable (item.Ordered ∧ OrderedItems rest))

def decideOrderedMembers : (members : List (String × Value)) → Decidable (OrderedMembers members)
  | [] => isTrue trivial
  | (_, value) :: rest =>
    letI := decideOrdered value
    letI := decideOrderedMembers rest
    inferInstanceAs (Decidable (value.Ordered ∧ OrderedMembers rest))
end

instance (value : Value) : Decidable value.Ordered := decideOrdered value

end Value
end BearerAuth.Json
