import BearerAuth.Proofs.Cache.Freshness
import BearerAuth.Proofs.Validation.Ensures

/-!
# Answers along a run

What the answers to a caller have in common in every run: keys come from snapshots that were
current while the call was under way, and times are those of its own steps. A dialogue that
ensures something for all such answers ensures it in every run.
-/
namespace BearerAuth

variable {α : Type}

/-- Answers out of the snapshots `W` at the times `T`. A refresh may also fail. -/
def Question.Fair (W : Snapshot → Prop) (T : Instant → Prop) (keyIdDisabled : Bool) :
    (q : Question) → q.Answer → Prop
  | .lookup kid, answer => ∃ snapshot, W snapshot ∧ snapshot.resolve keyIdDisabled kid = answer
  | .refresh kid, answer => ∀ key, answer = .ok key →
    ∃ snapshot, W snapshot ∧ snapshot.resolve keyIdDisabled kid = some key
  | .now, time => T time

namespace Caller

variable {W : Snapshot → Prop} {T : Instant → Prop} {good : α → Prop}

/-- Fair answers will bring the caller to a good result, and the refresh that it waits for can
only bring such an answer. -/
structure Promises (caller : Caller α) (cache : Cache) (W : Snapshot → Prop) (T : Instant → Prop)
    (good : α → Prop) : Prop where
  ensures : caller.inquiry.Ensures (Question.Fair W T cache.settings.keyIdDisabled) good
  waits : ∀ id, caller.waitingFor = some id →
    (∃ kid next, caller.inquiry = .ask (.refresh kid) next) ∧ cache.BringsOf id W

theorem Proceeds.promises {caller caller' : Caller α} {cache cache' : Cache} {now : Instant}
    (h : caller.Proceeds cache now caller' cache') (hp : caller.Promises cache W T good)
    (hc : cache.Coherent) (hcurrent : W cache.snapshot) (hnow : T now) :
    caller'.Promises cache' W T good := by
  obtain ⟨hensures, hwaits⟩ := hp
  cases h with
  | lookup kid next w c =>
    refine ⟨hensures (cache.lookup kid) ⟨cache.snapshot, hcurrent, rfl⟩, fun id hid => ?_⟩
    obtain ⟨⟨_, _, hasks⟩, -⟩ := hwaits id hid
    cases hasks
  | clock next w c =>
    refine ⟨hensures now hnow, fun id hid => ?_⟩
    obtain ⟨⟨_, _, hasks⟩, -⟩ := hwaits id hid
    cases hasks
  | join kid next c =>
    constructor
    · rw [Cache.joinOrStart_settings]
      exact hensures
    · intro id hid
      cases hid
      exact ⟨⟨kid, next, rfl⟩, hc.bringsOf_joined hcurrent⟩
  | giveUp kid next id => exact ⟨hensures (.error .cancelled) nofun, nofun⟩
  | learn kid next id outcome finished =>
    refine ⟨hensures (cache.resolveOutcome kid outcome) fun key hkey => ?_, nofun⟩
    obtain ⟨snapshot, rfl, hresolved⟩ := Cache.resolveOutcome_eq_ok_iff.mp hkey
    have houtcome : cache.outcome? id = some (.ok snapshot) := by
      rw [Cache.outcome?, finished]
      rfl
    exact ⟨snapshot, (hwaits id rfl).2 snapshot houtcome, hresolved⟩

/-- What others do does not matter, as long as the snapshot they leave is one of `W`. -/
theorem Promises.of_move {caller caller' : Caller α} {cache cache' : Cache}
    (hp : caller.Promises cache W T good) (move : cache.Move cache')
    (hinquiry : caller'.inquiry = caller.inquiry)
    (hwaiting : caller'.waitingFor = caller.waitingFor)
    (hcurrent : caller.result? = none → W cache'.snapshot) :
    caller'.Promises cache' W T good := by
  constructor
  · rw [hinquiry, move.settings_eq]
    exact hp.ensures
  · intro id hid
    rw [hwaiting] at hid
    obtain ⟨⟨kid, next, hasks⟩, hbrings⟩ := hp.waits id hid
    refine ⟨⟨kid, next, hinquiry.trans hasks⟩, move.bringsOf hbrings (hcurrent ?_)⟩
    simp only [result?, hasks]

theorem inquiry_of_result? {caller : Caller α} {result : α}
    (h : caller.result? = some result) : caller.inquiry = .done result := by
  unfold result? at h
  split at h
  · next heq =>
    cases h
    exact heq
  · cases h

/-- Only a caller that has no result yet takes a step. -/
theorem Proceeds.result?_eq_none {caller caller' : Caller α} {cache cache' : Cache}
    {now : Instant} (h : caller.Proceeds cache now caller' cache') : caller.result? = none := by
  cases h <;> rfl

end Caller

namespace System

/-- The call of the caller `i` has begun and has not returned. -/
def UnderWay (s : System α) (i : Nat) : Prop :=
  ∃ caller, s.callers[i]? = some caller ∧ caller.result? = none

/-- A snapshot that is current at some moment of a run at which the call is under way. -/
def CurrentDuring (s : System α) (events : List (Event α)) (i : Nat) (snapshot : Snapshot) :
    Prop :=
  ∃ m, s.Visits events m ∧ m.UnderWay i ∧ m.cache.snapshot = snapshot

theorem promises_of_run {s t : System α} {events : List (Event α)} (hrun : s.run events = some t)
    (hc : s.cache.Coherent) {i : Nat} {W : Snapshot → Prop} {T : Instant → Prop}
    {good : α → Prop} (hW : ∀ m, s.Visits events m → m.UnderWay i → W m.cache.snapshot)
    (hT : ∀ now, .proceed i now ∈ events → T now)
    (hs : ∃ caller, s.callers[i]? = some caller ∧ caller.Promises s.cache W T good) :
    ∃ caller, t.callers[i]? = some caller ∧ caller.Promises t.cache W T good := by
  have hboth : t.cache.Coherent ∧
      ∃ caller, t.callers[i]? = some caller ∧ caller.Promises t.cache W T good := by
    refine run_keeps (P := fun m => m.cache.Coherent ∧
      ∃ caller, m.callers[i]? = some caller ∧ caller.Promises m.cache W T good) hrun ⟨hc, hs⟩ ?_
    rintro a event b ha hb hmem hab ⟨hca, caller, hi, hp⟩
    have hmove := move_of_step hab
    refine ⟨hmove.coherent hca, ?_⟩
    obtain ⟨caller', hi', ⟨rfl, -⟩ | ⟨rfl, -⟩ | ⟨now, rfl, hproceeds⟩⟩ := caller_of_step hab hi
    · exact ⟨_, hi', hp.of_move hmove rfl rfl fun hr => hW b hb ⟨_, hi', hr⟩⟩
    · exact ⟨_, hi', hp.of_move hmove rfl rfl fun hr => hW b hb ⟨_, hi', hr⟩⟩
    · exact ⟨caller', hi', hproceeds.promises hp hca
        (hW a ha ⟨caller, hi, hproceeds.result?_eq_none⟩) (hT now hmem)⟩
  exact hboth.2

/-- What a dialogue ensures for fair answers holds of its result in every run. The answers are
from the time of its call. -/
theorem good_of_call {s t : System α} (hc : s.cache.Coherent) {inquiry : Inquiry α}
    {events : List (Event α)} (hrun : s.run (.call inquiry :: events) = some t) {good : α → Prop}
    (h : inquiry.Ensures (Question.Fair
      (s.CurrentDuring (.call inquiry :: events) s.callers.length)
      (fun now => .proceed s.callers.length now ∈ events) s.cache.settings.keyIdDisabled) good)
    {caller : Caller α} (hcaller : t.callers[s.callers.length]? = some caller) {result : α}
    (hresult : caller.result? = some result) : good result := by
  obtain ⟨called, hcall, hrest⟩ := run_cons_eq_some_iff.mp hrun
  have hpromises : ∃ caller, t.callers[s.callers.length]? = some caller ∧
      caller.Promises t.cache (s.CurrentDuring (.call inquiry :: events) s.callers.length)
        (fun now => .proceed s.callers.length now ∈ events) good := by
    refine promises_of_run hrest ((move_of_step hcall).coherent hc)
      (fun m hm hway => ⟨m, hm.later hcall, hway, rfl⟩) (fun now hmem => hmem) ?_
    cases hcall
    exact ⟨⟨inquiry, none, false⟩, List.getElem?_concat_length, h, nofun⟩
  obtain ⟨caller', hcaller', hp⟩ := hpromises
  obtain rfl : caller' = caller := Option.some.inj (hcaller'.symm.trans hcaller)
  have hensures := hp.ensures
  rw [Caller.inquiry_of_result? hresult] at hensures
  exact hensures

end System
end BearerAuth
