import BearerAuth.Proofs.Claim.Positions
import BearerAuth.Proofs.Text.ByteOrder

/-!
# The fault that is reported

A check that fails points at one position, by a chain of keys that leads to it through nested
objects. What stands there fails the requirement by itself, and everything before it in the order
of keys is met. No fault of an element is reported: it counts against the sequence.
-/
namespace BearerAuth

open Json

namespace ClaimFault

/-- A first name and the further ones, each after a dot. -/
def dotted (first : String) (rest : List String) : String :=
  rest.foldl (fun path name => path ++ "." ++ name) first

theorem claim_eq_dotted (first : String) (rest : List String) (mismatch : Mismatch) :
    claim ⟨first :: rest, mismatch⟩ = dotted first rest := by
  unfold claim dotted String.intercalate
  induction rest generalizing first with
  | nil => rfl
  | cons name rest ih => exact ih (first ++ "." ++ name)

end ClaimFault

namespace Claim

open Json.Value

/-- The position to which keys lead, from one object to the next. -/
def chain (keys : List String) : Position := keys.map .key

/-- Two scalars of one kind that are not equal, or two sequences of which some required element is
met by no received one. -/
def Differ : (required received : Value) → Prop
  | .string want, .string got => want ≠ got
  | .number want, .number got => want.same got = false
  | .bool want, .bool got => want ≠ got
  | .array wants, .array items => ∃ want ∈ wants, ∀ item ∈ items, ¬ Contains want item
  | _, _ => False

/-- How a required value and what stands in its place, if anything, are at odds by themselves. -/
inductive AtOdds : (required : Value) → (received : Option Value) → Mismatch → Prop
  | missing (required : Value) : AtOdds required none .missing
  /-- The shapes differ, or null is required, which nothing meets. -/
  | kind {required received : Value} (h : required.kind ≠ received.kind ∨ required.kind = .null) :
      AtOdds required (some received) (.kind required.kind received.kind)
  | value {required received : Value} (h : Differ required received) :
      AtOdds required (some received) .value

/-- The first fault of a received value, at the end of a chain of keys. -/
structure FirstFault (required received : Value) (keys : List String) (mismatch : Mismatch) :
    Prop where
  /-- The requirement has a value there, and what has been received is at odds with it. -/
  odds : ∃ want, required.at? (chain keys) = some want ∧
    AtOdds want (received.at? (chain keys)) mismatch
  /-- The received value has objects all along the chain. -/
  objects : ∀ above key below, keys = above ++ key :: below →
    ∃ members, received.at? (chain above) = some (.object members)
  /-- In each of them the keys before the one of the chain are met, in the order of bytes. -/
  first : ∀ above key below, keys = above ++ key :: below → ∀ name want,
    Bytes.ofText name < Bytes.ofText key → required.at? (chain (above ++ [name])) = some want →
      ∃ got, received.at? (chain (above ++ [name])) = some got ∧ Contains want got

/-- A check of an object comes to a key, under which `want` is required: all keys before it are
met. -/
structure Reaches (required received : Value) (key : String) (want : Value) : Prop where
  object : ∃ members, received = .object members
  wanted : required.get? key = some want
  met : ∀ name value, Bytes.ofText name < Bytes.ofText key → required.get? name = some value →
    ∃ got, received.get? name = some got ∧ Contains value got

variable {required received : Value} {keys : List String} {mismatch : Mismatch}

/-! ## One level of a check -/

theorem checkScalar_eq_error_iff {equal : Bool} {fault : ClaimFault} :
    checkScalar equal = .error fault ↔ equal = false ∧ fault = ⟨[], .value⟩ := by
  cases equal <;> simp [checkScalar, eq_comm]

theorem checkMembers_append {before after members : Members} :
    checkMembers (before ++ after) members =
      checkMembers before members >>= fun _ => checkMembers after members := by
  induction before with
  | nil => rfl
  | cons head rest ih =>
    obtain ⟨name, want⟩ := head
    rw [List.cons_append, checkMembers, checkMembers]
    cases members.get? name with
    | none => rfl
    | some got =>
      dsimp only
      cases check want got with
      | error fault => rfl
      | ok _ => exact ih

theorem checkMembers_eq_error_iff {wants members : Members} {fault : ClaimFault} :
    checkMembers wants members = .error fault ↔
      ∃ before name want after, wants = before ++ (name, want) :: after ∧
        checkMembers before members = .ok () ∧
          (members.get? name = none ∧ fault = ⟨[name], .missing⟩ ∨
            ∃ got below, members.get? name = some got ∧ check want got = .error below ∧
              fault = below.under name) := by
  have hnil : checkMembers [] members = .ok () := by rw [checkMembers]
  constructor
  · intro h
    induction wants with
    | nil =>
      rw [hnil] at h
      cases h
    | cons head rest ih =>
      obtain ⟨name, want⟩ := head
      rw [checkMembers] at h
      cases hget : members.get? name with
      | none =>
        simp only [hget] at h
        cases h
        exact ⟨[], name, want, rest, rfl, hnil, .inl ⟨hget, rfl⟩⟩
      | some got =>
        simp only [hget] at h
        cases hcheck : check want got with
        | error below =>
          simp only [hcheck] at h
          cases h
          exact ⟨[], name, want, rest, rfl, hnil, .inr ⟨got, below, hget, hcheck, rfl⟩⟩
        | ok _ =>
          simp only [hcheck] at h
          obtain ⟨before, first, wanted, after, rfl, hbefore, hfault⟩ := ih h
          refine ⟨(name, want) :: before, first, wanted, after, rfl, ?_, hfault⟩
          rw [checkMembers, hget]
          simp only [hcheck, hbefore]
  · rintro ⟨before, name, want, after, rfl, hbefore, hfault⟩
    rw [checkMembers_append, hbefore]
    show checkMembers ((name, want) :: after) members = .error fault
    rw [checkMembers]
    rcases hfault with ⟨hget, rfl⟩ | ⟨got, below, hget, hcheck, rfl⟩
    · rw [hget]
    · rw [hget]
      simp only [hcheck]

theorem covers_eq_false_iff {wants items : List Value} :
    covers wants items = false ↔ ∃ want ∈ wants, ∀ item ∈ items, ¬ Contains want item := by
  rw [← Bool.not_eq_true, covers_iff]
  simp only [not_forall, not_exists, not_and, exists_prop]

theorem check_array (wants items : List Value) :
    check (.array wants) (.array items) = checkScalar (covers wants items) := by
  rw [check, checkScalar]

theorem check_of_unlike (h : required.kind ≠ received.kind ∨ required.kind = .null) :
    check required received = .error ⟨[], .kind required.kind received.kind⟩ := by
  cases required <;> cases received <;> simp [kind, check] at h ⊢

theorem not_differ_of_unlike (h : required.kind ≠ received.kind ∨ required.kind = .null) :
    ¬ Differ required received := by
  cases required <;> cases received <;> simp [kind, Differ] at h ⊢

/-- Scalars and sequences have their faults where they stand. -/
theorem check_of_alike {fault : ClaimFault} (h : required.kind = received.kind)
    (hnull : required.kind ≠ .null) (hmapping : required.kind ≠ .mapping) :
    check required received = .error fault ↔
      Differ required received ∧ fault = ⟨[], .value⟩ := by
  cases required <;> cases received <;> simp [kind] at h hnull hmapping
  case bool.bool want got => simp [check, checkScalar_eq_error_iff, Differ]
  case number.number want got => simp [check, checkScalar_eq_error_iff, Differ]
  case string.string want got => simp [check, checkScalar_eq_error_iff, Differ]
  case array.array wants items =>
    rw [check_array, checkScalar_eq_error_iff, covers_eq_false_iff]
    rfl

theorem path_ne_nil_of_checkMembers {wants members : Members} {fault : ClaimFault}
    (h : checkMembers wants members = .error fault) : fault.path ≠ [] := by
  obtain ⟨_, name, _, _, -, -, ⟨-, rfl⟩ | ⟨_, below, -, -, rfl⟩⟩ := checkMembers_eq_error_iff.mp h
  · exact List.cons_ne_nil _ _
  · exact List.cons_ne_nil _ _

/-- Values that may be compared are two objects, or their faults have no path. -/
theorem cases_of_alike (h : required.kind = received.kind) (hnull : required.kind ≠ .null) :
    (∃ wants members, required = .object wants ∧ received = .object members) ∨
      ∀ fault, check required received = .error fault ↔
        Differ required received ∧ fault = ⟨[], .value⟩ := by
  by_cases hmapping : required.kind = .mapping
  · left
    cases required <;> cases received <;> simp [kind] at h hmapping ⊢
  · exact .inr fun fault => check_of_alike h hnull hmapping

theorem atOdds_some_iff :
    AtOdds required (some received) mismatch ↔
      (required.kind ≠ received.kind ∨ required.kind = .null) ∧
          mismatch = .kind required.kind received.kind ∨
        Differ required received ∧ mismatch = .value := by
  constructor
  · intro h
    cases h with
    | kind h => exact .inl ⟨h, rfl⟩
    | value h => exact .inr ⟨h, rfl⟩
  · rintro (⟨h, rfl⟩ | ⟨h, rfl⟩)
    · exact .kind h
    · exact .value h

theorem check_eq_error_nil_iff :
    check required received = .error ⟨[], mismatch⟩ ↔
      AtOdds required (some received) mismatch := by
  rw [atOdds_some_iff]
  by_cases hkind : required.kind ≠ received.kind ∨ required.kind = .null
  · rw [check_of_unlike hkind, and_iff_right hkind]
    simp [not_differ_of_unlike hkind, eq_comm]
  · obtain ⟨halike, hnull⟩ := not_or.mp hkind
    simp only [hkind, false_and, false_or]
    rcases cases_of_alike (not_not.mp halike) hnull with ⟨wants, members, rfl, rfl⟩ | hfault
    · refine iff_of_false (fun hcheck => ?_) fun hdiffer => hdiffer.1
      rw [check] at hcheck
      exact path_ne_nil_of_checkMembers hcheck rfl
    · rw [hfault]
      simp

/-- Only in objects a fault has a path. -/
theorem objects_of_path {key : String}
    (h : check required received = .error ⟨key :: keys, mismatch⟩) :
    ∃ wants members, required = .object wants ∧ received = .object members := by
  by_cases hkind : required.kind ≠ received.kind ∨ required.kind = .null
  · rw [check_of_unlike hkind] at h
    cases h
  · obtain ⟨halike, hnull⟩ := not_or.mp hkind
    refine (cases_of_alike (not_not.mp halike) hnull).resolve_right fun hfault => ?_
    exact List.cons_ne_nil _ _ (congrArg ClaimFault.path ((hfault _).mp h).2)

/-! ## One level of a chain -/

theorem child?_key (value : Value) (key : String) : value.child? (.key key) = value.get? key := by
  cases value <;> rfl

theorem at?_chain_cons (value : Value) (key : String) (keys : List String) :
    value.at? (chain (key :: keys)) = (value.get? key).bind (·.at? (chain keys)) := by
  rw [← child?_key]
  rfl

theorem at?_chain_singleton (value : Value) (key : String) :
    value.at? (chain [key]) = value.get? key := by
  rw [at?_chain_cons]
  cases value.get? key <;> rfl

theorem firstFault_nil_iff :
    FirstFault required received [] mismatch ↔ AtOdds required (some received) mismatch := by
  constructor
  · intro h
    obtain ⟨want, hwant, hodds⟩ := h.odds
    cases hwant
    exact hodds
  · exact fun h => { odds := ⟨required, rfl, h⟩, objects := by simp, first := by simp }

theorem FirstFault.reaches {key : String}
    (h : FirstFault required received (key :: keys) mismatch) :
    ∃ want, Reaches required received key want := by
  obtain ⟨members, hmembers⟩ := h.objects [] key keys rfl
  obtain ⟨_, hwant, -⟩ := h.odds
  rw [at?_chain_cons] at hwant
  obtain ⟨want, hwant, -⟩ := Option.bind_eq_some_iff.mp hwant
  refine ⟨want, ⟨members, Option.some.inj hmembers⟩, hwant, fun name value hlt hvalue => ?_⟩
  have hfirst := h.first [] key keys rfl name value hlt
  rw [List.nil_append, at?_chain_singleton, at?_chain_singleton] at hfirst
  exact hfirst hvalue

/-- A chain ends at a key that is missing. -/
theorem FirstFault.eq_nil_of_missing {key : String}
    (h : FirstFault required received (key :: keys) mismatch) (hget : received.get? key = none) :
    keys = [] ∧ mismatch = .missing := by
  obtain ⟨want, -, hodds⟩ := h.odds
  rw [at?_chain_cons, hget] at hodds
  cases hodds
  cases keys with
  | nil => exact ⟨rfl, rfl⟩
  | cons next rest =>
    obtain ⟨_, hobject⟩ := h.objects [key] next rest rfl
    rw [at?_chain_singleton, hget] at hobject
    cases hobject

/-- Otherwise it goes on below the key. -/
theorem FirstFault.below {key : String} {want got : Value}
    (h : FirstFault required received (key :: keys) mismatch)
    (hwant : required.get? key = some want) (hget : received.get? key = some got) :
    FirstFault want got keys mismatch where
  odds := by
    have hodds := h.odds
    rw [at?_chain_cons, at?_chain_cons, hwant, hget] at hodds
    exact hodds
  objects above next below hkeys := by
    have hobject := h.objects (key :: above) next below (by rw [hkeys]; rfl)
    rw [at?_chain_cons, hget] at hobject
    exact hobject
  first above next below hkeys name value hlt hvalue := by
    have hfirst := h.first (key :: above) next below (by rw [hkeys]; rfl) name value hlt
    rw [List.cons_append, at?_chain_cons, at?_chain_cons, hwant, hget] at hfirst
    exact hfirst hvalue

/-- A fault at the end of a chain below a key, or a key that is missing, makes a chain that begins
with the key. -/
theorem Reaches.firstFault {key : String} {want : Value} (h : Reaches required received key want)
    (hfault : received.get? key = none ∧ keys = [] ∧ mismatch = .missing ∨
      ∃ got, received.get? key = some got ∧ FirstFault want got keys mismatch) :
    FirstFault required received (key :: keys) mismatch := by
  have hbelow (above : List String) (next : String) (below : List String)
      (hkeys : keys = above ++ next :: below) :
      ∃ got, received.get? key = some got ∧ FirstFault want got keys mismatch := by
    refine hfault.resolve_left fun hnone => ?_
    rw [hnone.2.1] at hkeys
    simp at hkeys
  refine { odds := ?_, objects := ?_, first := ?_ }
  · rw [at?_chain_cons, at?_chain_cons, h.wanted]
    rcases hfault with ⟨hget, rfl, rfl⟩ | ⟨got, hget, hfault⟩
    · rw [hget]
      exact ⟨want, rfl, .missing want⟩
    · rw [hget]
      exact hfault.odds
  · intro above next below hkeys
    rcases List.cons_eq_append_iff.mp hkeys with ⟨rfl, -⟩ | ⟨above, rfl, hrest⟩
    · obtain ⟨members, hmembers⟩ := h.object
      exact ⟨members, congrArg some hmembers⟩
    · obtain ⟨got, hget, hfault⟩ := hbelow above next below hrest
      rw [at?_chain_cons, hget]
      exact hfault.objects above next below hrest
  · intro above next below hkeys name value hlt hvalue
    rcases List.cons_eq_append_iff.mp hkeys with ⟨rfl, hsame⟩ | ⟨above, rfl, hrest⟩
    · obtain ⟨rfl, -⟩ := List.cons.inj hsame
      rw [List.nil_append, at?_chain_singleton] at hvalue ⊢
      exact h.met name value hlt hvalue
    · obtain ⟨got, hget, hfault⟩ := hbelow above next below hrest
      rw [List.cons_append, at?_chain_cons, h.wanted] at hvalue
      rw [List.cons_append, at?_chain_cons, hget]
      exact hfault.first above next below hrest name value hlt hvalue

theorem firstFault_cons_iff {key : String} :
    FirstFault required received (key :: keys) mismatch ↔
      ∃ want, Reaches required received key want ∧
        (received.get? key = none ∧ keys = [] ∧ mismatch = .missing ∨
          ∃ got, received.get? key = some got ∧ FirstFault want got keys mismatch) := by
  constructor
  · intro h
    obtain ⟨want, hreaches⟩ := h.reaches
    refine ⟨want, hreaches, ?_⟩
    cases hget : received.get? key with
    | none => exact .inl ⟨rfl, h.eq_nil_of_missing hget⟩
    | some got => exact .inr ⟨got, rfl, h.below hreaches.wanted hget⟩
  · rintro ⟨want, hreaches, hfault⟩
    exact hreaches.firstFault hfault

/-! ## The check and its fault -/

/-- Of members in order, those before one are those under smaller keys. -/
theorem get?_before_iff {before after : Members} {key : String} {want : Value}
    (h : Members.Sorted (before ++ (key, want) :: after)) {name : String} {value : Value} :
    (name, value) ∈ before ↔
      Members.get? (before ++ (key, want) :: after) name = some value ∧ name < key := by
  rw [Members.get?_eq_some_iff_of_sorted h, List.mem_append]
  obtain ⟨-, hafter, hbefore⟩ := List.pairwise_append.mp h
  constructor
  · exact fun hmem => ⟨.inl hmem, hbefore _ hmem _ (List.mem_cons_self ..)⟩
  · rintro ⟨hmem | hmem, hlt⟩
    · exact hmem
    · rcases List.mem_cons.mp hmem with heq | hmem
      · cases heq
        exact absurd hlt (lt_irrefl _)
      · exact absurd hlt (lt_asymm ((List.pairwise_cons.mp hafter).1 _ hmem))

/-- The members before the first one that is not met are those under the smaller keys. -/
theorem reaches_object_iff {wants members : Members} (h : wants.Sorted) {key : String}
    {want : Value} :
    Reaches (.object wants) (.object members) key want ↔
      ∃ before after, wants = before ++ (key, want) :: after ∧
        checkMembers before members = .ok () := by
  constructor
  · intro hreaches
    obtain ⟨before, after, rfl⟩ :=
      List.append_of_mem (Members.mem_of_get? hreaches.wanted)
    refine ⟨before, after, rfl, checkMembers_eq_ok_iff.mpr fun name value hmem => ?_⟩
    obtain ⟨hget, hlt⟩ := (get?_before_iff h).mp hmem
    exact hreaches.met name value (Bytes.ofText_lt_iff.mpr hlt) hget
  · rintro ⟨before, after, rfl, hbefore⟩
    refine { object := ⟨members, rfl⟩, wanted := ?_, met := ?_ }
    · exact (Members.get?_eq_some_iff_of_sorted h).mpr (by simp)
    · intro name value hlt hvalue
      exact checkMembers_eq_ok_iff.mp hbefore name value
        ((get?_before_iff h).mpr ⟨hvalue, Bytes.ofText_lt_iff.mp hlt⟩)

theorem checkMembers_eq_error_cons_iff {wants members : Members} (h : wants.Sorted) {key : String} :
    checkMembers wants members = .error ⟨key :: keys, mismatch⟩ ↔
      ∃ want, Reaches (.object wants) (.object members) key want ∧
        (members.get? key = none ∧ keys = [] ∧ mismatch = .missing ∨
          ∃ got, members.get? key = some got ∧ check want got = .error ⟨keys, mismatch⟩) := by
  simp only [checkMembers_eq_error_iff, reaches_object_iff h]
  constructor
  · rintro ⟨before, name, want, after, hwants, hbefore, hfault⟩
    rcases hfault with ⟨hget, heq⟩ | ⟨got, below, hget, hcheck, heq⟩
    · cases heq
      exact ⟨want, ⟨before, after, hwants, hbefore⟩, .inl ⟨hget, rfl, rfl⟩⟩
    · cases below
      cases heq
      exact ⟨want, ⟨before, after, hwants, hbefore⟩, .inr ⟨got, hget, hcheck⟩⟩
  · rintro ⟨want, ⟨before, after, hwants, hbefore⟩, hfault⟩
    refine ⟨before, key, want, after, hwants, hbefore, ?_⟩
    rcases hfault with ⟨hget, rfl, rfl⟩ | ⟨got, hget, hcheck⟩
    · exact .inl ⟨hget, rfl⟩
    · exact .inr ⟨got, _, hget, hcheck, rfl⟩

theorem Reaches.exists_object {key : String} {want : Value}
    (h : Reaches required received key want) :
    ∃ wants members, required = .object wants ∧ received = .object members := by
  obtain ⟨members, hmembers⟩ := h.object
  obtain ⟨wants, hwants, -⟩ := get?_eq_some_iff.mp h.wanted
  exact ⟨wants, members, hwants, hmembers⟩

theorem check_eq_error_cons_iff (h : required.Ordered) {key : String} :
    check required received = .error ⟨key :: keys, mismatch⟩ ↔
      ∃ want, Reaches required received key want ∧
        (received.get? key = none ∧ keys = [] ∧ mismatch = .missing ∨
          ∃ got, received.get? key = some got ∧ check want got = .error ⟨keys, mismatch⟩) := by
  constructor
  · intro hcheck
    obtain ⟨wants, members, rfl, rfl⟩ := objects_of_path hcheck
    rw [check] at hcheck
    exact (checkMembers_eq_error_cons_iff h.1).mp hcheck
  · rintro ⟨want, hreaches, hfault⟩
    obtain ⟨wants, members, rfl, rfl⟩ := hreaches.exists_object
    rw [check]
    exact (checkMembers_eq_error_cons_iff h.1).mpr ⟨want, hreaches, hfault⟩

theorem check_eq_error_iff (h : required.Ordered) :
    check required received = .error ⟨keys, mismatch⟩ ↔
      FirstFault required received keys mismatch := by
  induction keys generalizing required received with
  | nil => rw [check_eq_error_nil_iff, firstFault_nil_iff]
  | cons key keys ih =>
    rw [check_eq_error_cons_iff h, firstFault_cons_iff]
    refine exists_congr fun want => and_congr_right fun hreaches => ?_
    simp only [ih (h.child (child?_key required key ▸ hreaches.wanted))]

/-- Two sequences are the end of a chain that comes to them. -/
theorem FirstFault.of_sequences (h : FirstFault required received keys mismatch)
    {above below : List String} (hkeys : keys = above ++ below) {wants items : List Value}
    (hwants : required.at? (chain above) = some (.array wants))
    (hitems : received.at? (chain above) = some (.array items)) :
    below = [] ∧ mismatch = .value ∧ ∃ want ∈ wants, ∀ item ∈ items, ¬ Contains want item := by
  cases below with
  | cons key below =>
    obtain ⟨members, hmembers⟩ := h.objects above key below hkeys
    cases hitems.symm.trans hmembers
  | nil =>
    rw [List.append_nil] at hkeys
    subst hkeys
    obtain ⟨want, hwant, hodds⟩ := h.odds
    cases hwants.symm.trans hwant
    rw [hitems] at hodds
    cases hodds with
    | kind hkind => simp [kind] at hkind
    | value hdiffer => exact ⟨rfl, rfl, hdiffer⟩

/-- How a value that does not meet a requirement is reported. -/
structure FaultsReported (required received : Value) : Prop where
  /-- A claim that has a name fails by its first fault, whose keys come after the name. -/
  named : ∀ name fault, checkNamed name required received = .error fault ↔
    ∃ keys, fault.path = name :: keys ∧ fault.claim = ClaimFault.dotted name keys ∧
      FirstFault required received keys fault.mismatch
  /-- So do all claims together, but there is no name before the keys, of which there is one at
  least. -/
  together : ∀ wants claims, required = .object wants → received = .object claims →
    ∀ fault, checkMembers wants claims = .error fault ↔
      ∃ key keys, fault.path = key :: keys ∧ fault.claim = ClaimFault.dotted key keys ∧
        FirstFault required received (key :: keys) fault.mismatch
  /-- Whatever is wrong inside a sequence, the fault is that of the sequence. -/
  sequences : ∀ keys mismatch, FirstFault required received keys mismatch →
    ∀ above below wants items, keys = above ++ below →
      required.at? (chain above) = some (.array wants) →
        received.at? (chain above) = some (.array items) →
          below = [] ∧ mismatch = .value ∧ ∃ want ∈ wants, ∀ item ∈ items, ¬ Contains want item

/-- The fault that is reported is there, and it is the first one. -/
theorem faults_reported {required : Value} (h : required.Ordered) (received : Value) :
    FaultsReported required received where
  named name fault := by
    have hnamed : checkNamed name required received = .error fault ↔
        ∃ below, check required received = .error below ∧ below.under name = fault := by
      unfold checkNamed
      cases check required received <;> simp
    rw [hnamed]
    constructor
    · rintro ⟨below, hbelow, rfl⟩
      exact ⟨below.path, rfl, ClaimFault.claim_eq_dotted _ _ _, (check_eq_error_iff h).mp hbelow⟩
    · rintro ⟨keys, hpath, -, hfirst⟩
      refine ⟨⟨keys, fault.mismatch⟩, (check_eq_error_iff h).mpr hfirst, ?_⟩
      rw [ClaimFault.under, ← hpath]
  together wants claims hwants hclaims fault := by
    subst hwants hclaims
    have hcheck : check (.object wants) (.object claims) = checkMembers wants claims := by
      rw [check]
    rw [← hcheck]
    constructor
    · intro hfault
      obtain ⟨key, keys, hpath⟩ :=
        List.exists_cons_of_ne_nil (path_ne_nil_of_checkMembers (hcheck ▸ hfault))
      obtain ⟨path, mismatch⟩ := fault
      cases hpath
      exact ⟨key, keys, rfl, ClaimFault.claim_eq_dotted _ _ _, (check_eq_error_iff h).mp hfault⟩
    · rintro ⟨key, keys, hpath, -, hfirst⟩
      obtain ⟨path, mismatch⟩ := fault
      cases hpath
      exact (check_eq_error_iff h).mpr hfirst
  sequences _ _ hfirst _ _ _ _ hkeys hwants hitems := hfirst.of_sequences hkeys hwants hitems

/-- An organisation with an administrator, and a scope. -/
def membership : Value :=
  .object [("org", .object [("id", .string "acme"),
    ("roles", .array [.object [("name", .string "admin")]])]), ("scope", .array [.string "read"])]

/-- It may be written in any order. -/
def membershipText : String :=
  "\x7b\"scope\": [\"read\"], " ++
    "\"org\": \x7b\"roles\": [\x7b\"name\": \"admin\"\x7d], \"id\": \"acme\"\x7d\x7d"

/-- Nobody is an administrator here, and the scope is no sequence. -/
def demoted : Value :=
  .object [("org", .object [("id", .string "acme"),
    ("roles", .array [.object [("name", .string "user")], .null])]), ("scope", .string "read")]

/-- The role comes before the scope, and is not named itself. -/
theorem faults_reported_membership :
    Value.read? membershipText = some membership ∧ membership.Ordered ∧
      FaultsReported membership demoted ∧
        (ClaimFault.mk ["token", "org", "roles"] .value).claim = "token.org.roles" ∧
          FirstFault membership demoted ["org", "roles"] .value := by
  have hread : Value.read? membershipText = some membership := by cbv
  have hordered := Value.ordered_of_read? hread
  have hreported := faults_reported hordered demoted
  have hfault : checkNamed "token" membership demoted =
      .error ⟨["token", "org", "roles"], .value⟩ := rfl
  obtain ⟨keys, hpath, -, hfirst⟩ := (hreported.named "token" _).mp hfault
  cases hpath
  exact ⟨hread, hordered, hreported, rfl, hfirst⟩

end Claim
end BearerAuth
