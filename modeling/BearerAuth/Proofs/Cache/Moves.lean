import BearerAuth.Cache.State
import BearerAuth.Proofs.Results
import Mathlib.Tactic.Common

/-!
# Moves of the cache

What one event can do to a cache, said once: it starts a refresh in an empty slot, moves one
refresh to its next stage, or lets time pass. Invariants of the cache are proved by cases on
such a move and never open the operations again.
-/
namespace BearerAuth

namespace RefreshStage

/-- How the refresh has ended, from the moment its fetch has. -/
def outcome? : RefreshStage → Option RefreshOutcome
  | queued => none
  | fetching => none
  | settled outcome => some outcome
  | finished outcome => some outcome

/-- Started, and the slot not yet cleared. -/
def isActive : RefreshStage → Bool
  | finished _ => false
  | _ => true

/-- Past its permit. -/
def hasFetched : RefreshStage → Bool
  | queued => false
  | _ => true

/-- Ended with a new snapshot. -/
def hasSucceeded (stage : RefreshStage) : Bool :=
  match stage.outcome? with
  | some (.ok _) => true
  | _ => false

end RefreshStage

/-- The snapshot after a refresh: its own, or after a failure the one before. -/
def snapshotAfter (outcome : RefreshOutcome) (before : Snapshot) : Snapshot :=
  match outcome with
  | .ok snapshot => snapshot
  | .error _ => before

theorem checkUnambiguous_eq_ok_iff {keyIdDisabled : Bool} {keys keys' : KeySet} :
    checkUnambiguous keyIdDisabled keys = .ok keys' ↔
      keys' = keys ∧ (keyIdDisabled = true → keys.keys.length ≤ 1) := by
  unfold checkUnambiguous
  by_cases h : keyIdDisabled ∧ 1 < keys.keys.length
  · rw [if_pos h]
    constructor
    · intro he
      cases he
    · rintro ⟨-, hle⟩
      have := hle h.1
      omega
  · rw [if_neg h, Except.ok.injEq]
    constructor
    · rintro rfl
      refine ⟨rfl, fun hd => ?_⟩
      by_contra hlt
      exact h ⟨hd, by omega⟩
    · rintro ⟨rfl, -⟩
      rfl

theorem checkUnambiguous_of_ambiguous {keyIdDisabled : Bool} {keys : KeySet}
    (hd : keyIdDisabled = true) (h : 1 < keys.keys.length) :
    checkUnambiguous keyIdDisabled keys = .error (.ambiguousKeySet keys.keys.length) :=
  if_pos ⟨hd, h⟩

namespace Cache

/-- A cache around a key set that may be used. -/
def initial (settings : CacheSettings) (keys : KeySet) : Cache :=
  ⟨settings, ⟨keys, 0⟩, [], none, 0, 0⟩

theorem start_eq_ok_iff {settings : CacheSettings} {fetched : Except CacheError KeySet}
    {cache : Cache} :
    start settings fetched = .ok cache ↔ ∃ keys, fetched = .ok keys ∧
      (settings.keyIdDisabled = true → keys.keys.length ≤ 1) ∧ cache = initial settings keys := by
  simp only [start, bind_eq_ok_iff, checkUnambiguous_eq_ok_iff]
  constructor
  · rintro ⟨keys, hfetched, keys', ⟨rfl, hsole⟩, hcache⟩
    cases hcache
    exact ⟨keys', hfetched, hsole, rfl⟩
  · rintro ⟨keys, hfetched, hsole, rfl⟩
    exact ⟨keys, hfetched, keys, ⟨rfl, hsole⟩, rfl⟩

theorem joinOrStart_of_slot {cache : Cache} {id : Nat} (h : cache.slot = some id) :
    cache.joinOrStart = (id, cache) := by
  simp [joinOrStart, h]

theorem joinOrStart_of_empty {cache : Cache} (h : cache.slot = none) :
    cache.joinOrStart = (cache.refreshes.length,
      { cache with
        refreshes := cache.refreshes ++ [.queued]
        slot := some cache.refreshes.length }) := by
  simp [joinOrStart, h]

/-- In either way the refresh that is joined is the one in the slot. -/
theorem joinOrStart_slot (cache : Cache) :
    cache.joinOrStart.2.slot = some cache.joinOrStart.1 := by
  cases hslot : cache.slot with
  | none => rw [joinOrStart_of_empty hslot]
  | some id => rw [joinOrStart_of_slot hslot, hslot]

/-- Neither way of joining touches what readers see. -/
@[simp] theorem joinOrStart_snapshot (cache : Cache) :
    cache.joinOrStart.2.snapshot = cache.snapshot := by
  cases hslot : cache.slot with
  | none => rw [joinOrStart_of_empty hslot]
  | some id => rw [joinOrStart_of_slot hslot]

@[simp] theorem joinOrStart_settings (cache : Cache) :
    cache.joinOrStart.2.settings = cache.settings := by
  cases hslot : cache.slot with
  | none => rw [joinOrStart_of_empty hslot]
  | some id => rw [joinOrStart_of_slot hslot]

theorem grant?_eq_some_iff {cache next : Cache} {id : Nat} :
    cache.grant? id = some next ↔
      cache.refreshes[id]? = some .queued ∧ cache.nextPermit ≤ cache.clock ∧
        next = { cache with
          refreshes := cache.refreshes.set id .fetching
          nextPermit := cache.clock + cache.settings.refreshInterval.toNanos } := by
  unfold grant?
  split
  · next h =>
    by_cases hp : cache.nextPermit ≤ cache.clock
    · simp [h, hp, eq_comm]
    · simp [hp]
  · next h => exact iff_of_false (by simp) fun hq => h hq.1

theorem settle?_eq_some_iff {cache next : Cache} {id : Nat} {fetched : Except CacheError KeySet} :
    cache.settle? id fetched = some next ↔
      cache.refreshes[id]? = some .fetching ∧
        next = { cache.install (cache.outcomeOf fetched) with
          refreshes := cache.refreshes.set id (.settled (cache.outcomeOf fetched)) } := by
  unfold settle?
  split
  · next h => simp [h, eq_comm]
  · next h => exact iff_of_false (by simp) fun hf => h hf.1

theorem finish?_eq_some_iff {cache next : Cache} {id : Nat} :
    cache.finish? id = some next ↔
      ∃ outcome, cache.refreshes[id]? = some (.settled outcome) ∧
        next = { cache with
          refreshes := cache.refreshes.set id (.finished outcome)
          slot := none } := by
  unfold finish?
  split
  · next outcome h => simp [h, eq_comm]
  · next h => exact iff_of_false (by simp) fun ⟨outcome, hs, _⟩ => h outcome hs

@[simp] theorem install_settings (cache : Cache) (outcome : RefreshOutcome) :
    (cache.install outcome).settings = cache.settings := by cases outcome <;> rfl

@[simp] theorem install_slot (cache : Cache) (outcome : RefreshOutcome) :
    (cache.install outcome).slot = cache.slot := by cases outcome <;> rfl

@[simp] theorem install_clock (cache : Cache) (outcome : RefreshOutcome) :
    (cache.install outcome).clock = cache.clock := by cases outcome <;> rfl

@[simp] theorem install_nextPermit (cache : Cache) (outcome : RefreshOutcome) :
    (cache.install outcome).nextPermit = cache.nextPermit := by cases outcome <;> rfl

@[simp] theorem install_ok_snapshot (cache : Cache) (snapshot : Snapshot) :
    (cache.install (.ok snapshot)).snapshot = snapshot := rfl

@[simp] theorem install_error_snapshot (cache : Cache) (error : CacheError) :
    (cache.install (.error error)).snapshot = cache.snapshot := rfl

theorem install_snapshot (cache : Cache) (outcome : RefreshOutcome) :
    (cache.install outcome).snapshot = snapshotAfter outcome cache.snapshot := by
  cases outcome <;> rfl

section Restaging

variable {β : Type} {l : List β} {i : Nat} {a b : β}

theorem getElem?_set_of_some {j : Nat} (h : l[i]? = some a) :
    (l.set i b)[j]? = if i = j then some b else l[j]? := by
  obtain ⟨hi, -⟩ := List.getElem?_eq_some_iff.mp h
  rw [List.getElem?_set]
  simp [hi]

theorem countP_set_add {p : β → Bool} (h : l[i]? = some a) :
    (l.set i b).countP p + (if p a then 1 else 0) = l.countP p + (if p b then 1 else 0) := by
  obtain ⟨hi, rfl⟩ := List.getElem?_eq_some_iff.mp h
  rw [List.countP_set hi]
  have hpos : p l[i] = true → 0 < l.countP p := fun hp =>
    List.countP_pos_iff.mpr ⟨l[i], List.getElem_mem hi, hp⟩
  split
  · next hp =>
    have := hpos hp
    omega
  · omega

theorem countP_set_same {p : β → Bool} (h : l[i]? = some a) (hp : p b = p a) :
    (l.set i b).countP p = l.countP p := by
  have hset := countP_set_add (p := p) (b := b) h
  rw [hp] at hset
  exact Nat.add_right_cancel hset

end Restaging

/-- The effect of one event on a cache. -/
inductive Move (cache : Cache) : Cache → Prop
  | rest : Move cache cache
  | start (empty : cache.slot = none) :
    Move cache { cache with
      refreshes := cache.refreshes ++ [.queued]
      slot := some cache.refreshes.length }
  | grant (id : Nat) (queued : cache.refreshes[id]? = some .queued)
      (due : cache.nextPermit ≤ cache.clock) :
    Move cache { cache with
      refreshes := cache.refreshes.set id .fetching
      nextPermit := cache.clock + cache.settings.refreshInterval.toNanos }
  | settle (id : Nat) (fetched : Except CacheError KeySet)
      (fetching : cache.refreshes[id]? = some .fetching) :
    Move cache { cache.install (cache.outcomeOf fetched) with
      refreshes := cache.refreshes.set id (.settled (cache.outcomeOf fetched)) }
  | finish (id : Nat) (outcome : RefreshOutcome)
      (settled : cache.refreshes[id]? = some (.settled outcome)) :
    Move cache { cache with
      refreshes := cache.refreshes.set id (.finished outcome)
      slot := none }
  | tick (nanos : Nat) : Move cache { cache with clock := cache.clock + nanos }

end Cache
end BearerAuth
