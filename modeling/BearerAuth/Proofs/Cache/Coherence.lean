import BearerAuth.Proofs.Cache.Moves

/-!
# Coherent caches

The invariant of the shared state: the slot names exactly the refresh that has started and not
yet cleared it, and once that refresh has brought a snapshot, this is the one that readers see.
What a caller may rely on after it has joined follows from these two facts.
-/
namespace BearerAuth.Cache

/-- Between its start and the clearing of the slot. -/
def Active (cache : Cache) (id : Nat) : Prop :=
  ∃ stage, cache.refreshes[id]? = some stage ∧ stage.isActive = true

def outcome? (cache : Cache) (id : Nat) : Option RefreshOutcome :=
  cache.refreshes[id]?.bind RefreshStage.outcome?

section Restaged

variable {cache next : Cache} {i : Nat} {stage stage' : RefreshStage}
  (h : cache.refreshes[i]? = some stage) (hset : next.refreshes = cache.refreshes.set i stage')
include h hset

theorem active_restaged (j : Nat) :
    next.Active j ↔ if i = j then stage'.isActive = true else cache.Active j := by
  unfold Active
  rw [hset, getElem?_set_of_some h]
  by_cases hij : i = j
  · simp [hij]
  · simp [hij]

theorem outcome?_restaged (j : Nat) :
    next.outcome? j = if i = j then stage'.outcome? else cache.outcome? j := by
  unfold outcome?
  rw [hset, getElem?_set_of_some h]
  by_cases hij : i = j
  · simp [hij]
  · simp [hij]

variable (stage') in
theorem outcome?_restaged_same (hsame : stage'.outcome? = stage.outcome?) (j : Nat) :
    next.outcome? j = cache.outcome? j := by
  rw [outcome?_restaged h hset]
  split
  · next he =>
    subst he
    rw [hsame, outcome?, h]
    rfl
  · rfl

/-- A refresh that goes on without ending stays active, and so does every other. -/
theorem active_restaged_iff (hold : stage.isActive = true) (hnew : stage'.isActive = true)
    (j : Nat) : next.Active j ↔ cache.Active j := by
  rw [active_restaged h hset]
  by_cases hij : i = j
  · subst j
    simp only [if_true, hnew, true_iff]
    exact ⟨stage, h, hold⟩
  · rw [if_neg hij]

end Restaged

/-- A refresh that has just been started has no outcome. -/
theorem outcome?_started {cache next : Cache} (h : next.refreshes = cache.refreshes ++ [.queued])
    (id : Nat) : next.outcome? id = cache.outcome? id := by
  unfold outcome?
  rw [h, List.getElem?_append]
  split
  · rfl
  · next hge =>
    rw [List.getElem?_eq_none (Nat.le_of_not_lt hge), List.getElem?_singleton]
    split <;> rfl

/-- The slot names the one active refresh, and what that refresh has brought is what readers
see: replacing the snapshot comes before clearing the slot. -/
structure Coherent (cache : Cache) : Prop where
  slot_iff : ∀ id, cache.slot = some id ↔ cache.Active id
  current : ∀ id snapshot, cache.slot = some id → cache.outcome? id = some (.ok snapshot) →
    cache.snapshot = snapshot

theorem coherent_initial (settings : CacheSettings) (keys : KeySet) :
    (initial settings keys).Coherent where
  slot_iff id := by simp [initial, Active]
  current id snapshot h := by cases h

theorem Move.settings_eq {cache next : Cache} (move : cache.Move next) :
    next.settings = cache.settings := by
  cases move with
  | settle id fetched hf => simp
  | _ => rfl

/-- A refresh in flight is the one in the slot. -/
theorem Coherent.slot_of_stage {cache : Cache} (hc : cache.Coherent) {id : Nat}
    {stage : RefreshStage} (h : cache.refreshes[id]? = some stage) (hs : stage.isActive = true) :
    cache.slot = some id :=
  (hc.slot_iff id).mpr ⟨stage, h, hs⟩

theorem Coherent.start {cache : Cache} (hc : cache.Coherent) (empty : cache.slot = none) :
    Coherent { cache with
      refreshes := cache.refreshes ++ [.queued]
      slot := some cache.refreshes.length } where
  slot_iff id := by
    have hidle (id : Nat) : ¬ cache.Active id := by
      intro ha
      rw [← hc.slot_iff, empty] at ha
      cases ha
    simp only [Option.some.injEq, Active, List.getElem?_append]
    split
    · next hlt =>
      refine iff_of_false (by omega) (hidle id)
    · next hge =>
      constructor
      · rintro rfl
        exact ⟨.queued, by simp, rfl⟩
      · rintro ⟨stage, hstage, -⟩
        rw [List.getElem?_singleton] at hstage
        split at hstage
        · omega
        · cases hstage
  current id snapshot hslot houtcome := by
    obtain rfl : cache.refreshes.length = id := Option.some.inj hslot
    simp [outcome?, RefreshStage.outcome?] at houtcome

theorem Coherent.grant {cache : Cache} (hc : cache.Coherent) {id : Nat}
    (queued : cache.refreshes[id]? = some .queued) (permit : Nat) :
    Coherent { cache with
      refreshes := cache.refreshes.set id .fetching
      nextPermit := permit } where
  slot_iff j := by
    rw [active_restaged_iff queued rfl rfl rfl]
    exact hc.slot_iff j
  current j snapshot hslot houtcome := by
    rw [outcome?_restaged_same .fetching queued rfl rfl] at houtcome
    exact hc.current j snapshot hslot houtcome

theorem Coherent.settle {cache : Cache} (hc : cache.Coherent) {id : Nat}
    (fetching : cache.refreshes[id]? = some .fetching) (outcome : RefreshOutcome) :
    Coherent { cache.install outcome with
      refreshes := cache.refreshes.set id (.settled outcome) } where
  slot_iff j := by
    rw [active_restaged_iff fetching rfl rfl rfl, install_slot]
    exact hc.slot_iff j
  current j snapshot hslot houtcome := by
    -- the slot is held by the refresh that settles, so no other outcome is in question
    have hid : cache.slot = some id := hc.slot_of_stage fetching rfl
    rw [install_slot, hid] at hslot
    obtain rfl : id = j := Option.some.inj hslot
    rw [outcome?_restaged fetching rfl, if_pos rfl] at houtcome
    obtain rfl : outcome = .ok snapshot := Option.some.inj houtcome
    rfl

theorem Coherent.finish {cache : Cache} (hc : cache.Coherent) {id : Nat} {outcome : RefreshOutcome}
    (settled : cache.refreshes[id]? = some (.settled outcome)) :
    Coherent { cache with
      refreshes := cache.refreshes.set id (.finished outcome)
      slot := none } where
  slot_iff j := by
    rw [active_restaged settled rfl]
    refine iff_of_false (by simp) ?_
    split
    · simp [RefreshStage.isActive]
    · next hne =>
      intro ha
      have hj := (hc.slot_iff j).mpr ha
      rw [hc.slot_of_stage settled rfl] at hj
      exact hne (Option.some.inj hj)
  current j snapshot hslot := by cases hslot

theorem Move.coherent {cache next : Cache} (move : cache.Move next) (hc : cache.Coherent) :
    next.Coherent := by
  cases move with
  | rest => exact hc
  | start empty => exact hc.start empty
  | grant id queued due => exact hc.grant queued _
  | settle id fetched fetching => exact hc.settle fetching _
  | finish id outcome settled => exact hc.finish settled
  | tick nanos => exact ⟨hc.slot_iff, hc.current⟩

/-- An outcome is final. -/
theorem Move.outcome_stays {cache next : Cache} (move : cache.Move next) {id : Nat}
    {outcome : RefreshOutcome} (h : cache.outcome? id = some outcome) :
    next.outcome? id = some outcome := by
  cases move with
  | rest => exact h
  | start empty => rwa [outcome?_started rfl]
  | grant j queued due => rwa [outcome?_restaged_same .fetching queued rfl rfl]
  | settle j fetched fetching =>
    rw [outcome?_restaged fetching rfl]
    split
    · next he =>
      subst he
      simp [outcome?, fetching, RefreshStage.outcome?] at h
    · exact h
  | finish j final settled => rwa [outcome?_restaged_same (.finished final) settled rfl rfl]
  | tick nanos => exact h

/-- A new outcome is that of the refresh that settles now, and a snapshot it brings is at once
the current one. -/
theorem Move.outcome_new {cache next : Cache} (move : cache.Move next) {id : Nat}
    {snapshot : Snapshot} (h : next.outcome? id = some (.ok snapshot)) :
    cache.outcome? id = some (.ok snapshot) ∨ next.snapshot = snapshot := by
  cases move with
  | rest => exact .inl h
  | start empty =>
    rw [outcome?_started rfl] at h
    exact .inl h
  | grant j queued due =>
    rw [outcome?_restaged_same .fetching queued rfl rfl] at h
    exact .inl h
  | settle j fetched fetching =>
    rw [outcome?_restaged fetching rfl] at h
    split at h
    · have ho : cache.outcomeOf fetched = .ok snapshot := Option.some.inj h
      right
      simp only [ho, install_ok_snapshot]
    · exact .inl h
  | finish j final settled =>
    rw [outcome?_restaged_same (.finished final) settled rfl rfl] at h
    exact .inl h
  | tick nanos => exact .inl h

end BearerAuth.Cache
