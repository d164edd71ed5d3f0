import BearerAuth.Json.Reading
import Mathlib.Data.List.Induction
import Mathlib.Data.String.Basic

/-!
# The order of members

Members whose keys increase have one value under each key, so that it does not matter whether an
object is read by its keys or from one end to the other. All objects of all documents that are
read are of this kind.
-/
namespace BearerAuth.Json

namespace Members

theorem mem_of_get? {members : Members} {name : String} {value : Value}
    (h : members.get? name = some value) : (name, value) ∈ members := by
  induction members with
  | nil => cases h
  | cons head rest ih =>
    obtain ⟨first, found⟩ := head
    rw [get?] at h
    split at h
    · next heq =>
      cases h
      exact heq ▸ List.mem_cons_self ..
    · exact List.mem_cons_of_mem _ (ih h)

/-- Of keys that increase, each leads to the one value that stands under it. -/
theorem get?_eq_some_iff_of_sorted {members : Members} (h : members.Sorted) {name : String}
    {value : Value} : members.get? name = some value ↔ (name, value) ∈ members := by
  induction members with
  | nil => simp [get?]
  | cons head rest ih =>
    obtain ⟨first, found⟩ := head
    obtain ⟨hfirst, hrest⟩ := List.pairwise_cons.mp h
    rw [get?]
    split
    · next heq =>
      subst heq
      have hfresh : (first, value) ∉ rest := fun hmem =>
        lt_irrefl first (hfirst (first, value) hmem)
      simp [hfresh, eq_comm]
    · next hne =>
      rw [ih hrest]
      simp [Ne.symm hne]

/-- A member with another value in its place stands under the same keys. -/
theorem get?_append_cons (before after : Members) (name key : String) (value : Value) :
    get? (before ++ (name, value) :: after) key =
      ((get? before key).or (if name = key then some value else none)).or (get? after key) := by
  induction before with
  | nil =>
    simp only [List.nil_append, get?]
    split <;> rfl
  | cons head rest ih =>
    obtain ⟨first, found⟩ := head
    simp only [List.cons_append, get?]
    split
    · rfl
    · exact ih

theorem mem_of_mem_insert {members : Members} {key : String} {value : Value}
    {member : String × Value} (h : member ∈ members.insert key value) :
    member = (key, value) ∨ member ∈ members := by
  induction members with
  | nil => exact .inl (List.mem_singleton.mp h)
  | cons head rest ih =>
    obtain ⟨name, old⟩ := head
    rw [insert] at h
    split at h
    · exact List.mem_cons.mp h
    · split at h
      · exact (List.mem_cons.mp h).imp_right (List.mem_cons_of_mem _)
      · rcases List.mem_cons.mp h with rfl | h
        · exact .inr (List.mem_cons_self ..)
        · exact (ih h).imp_right (List.mem_cons_of_mem _)

theorem sorted_insert {members : Members} (h : members.Sorted) (key : String) (value : Value) :
    (members.insert key value).Sorted := by
  induction members with
  | nil => exact List.pairwise_singleton _ _
  | cons head rest ih =>
    obtain ⟨name, old⟩ := head
    obtain ⟨hname, hrest⟩ := List.pairwise_cons.mp h
    rw [insert]
    split
    · next hlt =>
      refine List.pairwise_cons.mpr ⟨fun member hmem => ?_, h⟩
      rcases List.mem_cons.mp hmem with rfl | hmem
      · exact hlt
      · exact lt_trans hlt (hname member hmem)
    · next hle =>
      split
      · next heq => exact List.pairwise_cons.mpr ⟨heq ▸ hname, hrest⟩
      · next hne =>
        have hlt : name < key := lt_of_le_of_ne (not_lt.mp hle) (Ne.symm hne)
        refine List.pairwise_cons.mpr ⟨fun member hmem => ?_, ih hrest⟩
        rcases mem_of_mem_insert hmem with rfl | hmem
        · exact hlt
        · exact hname member hmem

/-- What `insert` keeps, inserting one pair after the other keeps. -/
theorem ofPairs_keeps {P : Members → Prop} {pairs : List (String × Value)} (hnil : P [])
    (hinsert : ∀ members key value, (key, value) ∈ pairs → P members →
      P (members.insert key value)) : P (ofPairs pairs) := by
  have hfold (pairs' : List (String × Value)) (hsub : ∀ pair ∈ pairs', pair ∈ pairs)
      (members : Members) (h : P members) :
      P (pairs'.foldl (fun members pair => members.insert pair.1 pair.2) members) := by
    induction pairs' generalizing members with
    | nil => exact h
    | cons pair rest ih =>
      obtain ⟨hpair, hrest⟩ := List.forall_mem_cons.mp hsub
      exact ih hrest _ (hinsert members pair.1 pair.2 hpair h)
  exact hfold pairs (fun _ hmem => hmem) [] hnil

theorem insert_of_lt {members : Members} {key : String} (value : Value)
    (h : ∀ member ∈ members, member.1 < key) :
    members.insert key value = members ++ [(key, value)] := by
  induction members with
  | nil => rfl
  | cons head rest ih =>
    obtain ⟨name, old⟩ := head
    obtain ⟨hname, hrest⟩ := List.forall_mem_cons.mp h
    rw [insert, if_neg (lt_asymm hname), if_neg (ne_of_gt hname), ih hrest, List.cons_append]

/-- Of several pairs with one key, the last counts. -/
theorem get?_ofPairs_eq_some_iff {pairs : List (String × Value)} {key : String} {value : Value} :
    (ofPairs pairs).get? key = some value ↔
      ∃ before after, pairs = before ++ (key, value) :: after ∧ ∀ pair ∈ after, pair.1 ≠ key := by
  -- The induction is from the end of the pairs, where the last one is inserted.
  induction pairs using List.reverseRecOn with
  | nil => simp [ofPairs, get?]
  | append_singleton rest last ih =>
    have hlast : ofPairs (rest ++ [last]) = (ofPairs rest).insert last.1 last.2 := by
      rw [ofPairs, List.foldl_append]
      rfl
    rw [hlast, get?_insert]
    constructor
    · intro h
      split at h
      · next heq =>
        cases h
        exact ⟨rest, [], by rw [← heq], by simp⟩
      · next hne =>
        obtain ⟨before, after, rfl, hafter⟩ := ih.mp h
        refine ⟨before, after ++ [last], by simp, fun pair hmem => ?_⟩
        rcases List.mem_append.mp hmem with hmem | hmem
        · exact hafter pair hmem
        · exact List.mem_singleton.mp hmem ▸ hne
    · rintro ⟨before, after, heq, hafter⟩
      cases after using List.reverseRecOn with
      | nil =>
        obtain ⟨-, rfl⟩ := List.append_singleton_inj.mp heq
        rw [if_pos rfl]
      | append_singleton after final =>
        rw [← List.cons_append, ← List.append_assoc] at heq
        obtain ⟨rfl, rfl⟩ := List.append_singleton_inj.mp heq
        rw [if_neg (hafter last (by simp))]
        exact ih.mpr ⟨before, after, rfl, fun pair hmem => hafter pair (by simp [hmem])⟩

/-- Members whose keys increase are in their place already. -/
theorem ofPairs_of_sorted {members : Members} (h : members.Sorted) : ofPairs members = members := by
  have hfold (done rest : Members) (hsorted : Sorted (done ++ rest)) :
      rest.foldl (fun members pair => members.insert pair.1 pair.2) done = done ++ rest := by
    induction rest generalizing done with
    | nil => exact (List.append_nil done).symm
    | cons pair rest ih =>
      have hbefore : ∀ member ∈ done, member.1 < pair.1 := fun member hmem =>
        (List.pairwise_append.mp hsorted).2.2 member hmem pair (List.mem_cons_self ..)
      rw [List.foldl_cons, insert_of_lt pair.2 hbefore,
        ih _ (by rwa [List.append_assoc, List.singleton_append])]
      rw [List.append_assoc, List.singleton_append]
  exact hfold [] members h

end Members

namespace Value

theorem orderedItems_iff {items : List Value} :
    OrderedItems items ↔ ∀ item ∈ items, item.Ordered := by
  induction items with
  | nil => exact iff_of_true trivial nofun
  | cons item rest ih => rw [OrderedItems, List.forall_mem_cons, ih]

theorem orderedMembers_iff {members : Members} :
    OrderedMembers members ↔ ∀ name value, (name, value) ∈ members → value.Ordered := by
  induction members with
  | nil => exact iff_of_true trivial nofun
  | cons head rest ih =>
    obtain ⟨first, found⟩ := head
    rw [OrderedMembers, ih]
    constructor
    · rintro ⟨hfound, hrest⟩ name value hmem
      rcases List.mem_cons.mp hmem with heq | hmem
      · cases heq
        exact hfound
      · exact hrest name value hmem
    · exact fun h => ⟨h first found (List.mem_cons_self ..),
        fun name value hmem => h name value (List.mem_cons_of_mem _ hmem)⟩

theorem ordered_insert {members : Members} (h : Ordered (.object members)) (key : String)
    {value : Value} (hvalue : value.Ordered) : Ordered (.object (members.insert key value)) := by
  refine ⟨Members.sorted_insert h.1 key value, orderedMembers_iff.mpr fun name found hmem => ?_⟩
  rcases Members.mem_of_mem_insert hmem with heq | hmem
  · cases heq
    exact hvalue
  · exact orderedMembers_iff.mp h.2 name found hmem

theorem ordered_erase {members : Members} (h : Ordered (.object members)) (key : String) :
    Ordered (.object (members.erase key)) :=
  ⟨List.Pairwise.filter _ h.1, orderedMembers_iff.mpr fun name found hmem =>
    orderedMembers_iff.mp h.2 name found (List.mem_of_mem_filter hmem)⟩

theorem ordered_ofPairs {pairs : List (String × Value)} (h : OrderedMembers pairs) :
    Ordered (.object (Members.ofPairs pairs)) :=
  Members.ofPairs_keeps (P := fun members => Ordered (.object members)) ⟨.nil, trivial⟩
    fun _ key value hpair hmembers =>
      ordered_insert hmembers key (orderedMembers_iff.mp h key value hpair)

end Value

namespace Written

mutual
/-- What a tree means is in order, whatever order and however often it names its members. -/
theorem ordered_of_meaning? : ∀ {tree : Written} {value : Value}, tree.meaning? = some value →
    value.Ordered
  | .null, value, h => by
    cases h
    trivial
  | .bool _, value, h => by
    cases h
    trivial
  | .number literal, value, h => by
    obtain ⟨number, -, rfl⟩ := Option.map_eq_some_iff.mp h
    trivial
  | .string literal, value, h => by
    obtain ⟨text, -, rfl⟩ := Option.map_eq_some_iff.mp h
    trivial
  | .array items, value, h => by
    obtain ⟨values, hvalues, rfl⟩ := Option.map_eq_some_iff.mp h
    exact orderedItems_of_meanings? hvalues
  | .object members, value, h => by
    obtain ⟨pairs, hpairs, rfl⟩ := Option.map_eq_some_iff.mp h
    exact Value.ordered_ofPairs (orderedMembers_of_memberMeanings? hpairs)

theorem orderedItems_of_meanings? : ∀ {items : List Written} {values : List Value},
    meanings? items = some values → Value.OrderedItems values
  | [], values, h => by
    cases h
    trivial
  | item :: rest, values, h => by
    rw [meanings?] at h
    split at h
    · next value others hitem hrest =>
      cases h
      exact ⟨ordered_of_meaning? hitem, orderedItems_of_meanings? hrest⟩
    · cases h

theorem orderedMembers_of_memberMeanings? : ∀ {members : List (StringLiteral × Written)}
    {pairs : List (String × Value)}, memberMeanings? members = some pairs →
      Value.OrderedMembers pairs
  | [], pairs, h => by
    cases h
    trivial
  | (key, item) :: rest, pairs, h => by
    rw [memberMeanings?] at h
    split at h
    · next name value others _ hitem hrest =>
      cases h
      exact ⟨ordered_of_meaning? hitem, orderedMembers_of_memberMeanings? hrest⟩
    · cases h
end

end Written

/-- Every value that comes from a document is in order. -/
theorem Value.ordered_of_read? {text : String} {value : Value} (h : read? text = some value) :
    value.Ordered := by
  obtain ⟨tree, -, hmeaning⟩ := Option.bind_eq_some_iff.mp h
  split at hmeaning
  · exact Written.ordered_of_meaning? hmeaning
  · cases hmeaning

end BearerAuth.Json
