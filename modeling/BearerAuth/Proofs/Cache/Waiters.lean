import BearerAuth.Proofs.Cache.Freshness

/-!
# Callers who wait for the same refresh

An outcome is final, and it is all that a waiting caller learns. So it does not matter when a
caller looks at it, who else does, and what the cache has become in the meantime. A caller whose
token has fired learns nothing and can go at once.
-/
namespace BearerAuth

variable {α : Type}

/-- What an outcome says about a key depends on the cache only by its settings. -/
theorem Cache.resolveOutcome_of_settings {cache cache' : Cache}
    (h : cache.settings = cache'.settings) (kid : Option String) (outcome : RefreshOutcome) :
    cache.resolveOutcome kid outcome = cache'.resolveOutcome kid outcome := by
  cases outcome with
  | error error => rfl
  | ok snapshot => rw [resolveOutcome, resolveOutcome, h]

namespace System

theorem Visits.rest {s t m : System α} {events : List (Event α)} (hm : s.Visits events m)
    (hrun : s.run events = some t) : ∃ after, m.run after = some t := by
  obtain ⟨before, after, rfl, hbefore⟩ := hm
  obtain ⟨m', hm', hafter⟩ := run_append_eq_some_iff.mp hrun
  obtain rfl : m' = m := Option.some.inj (hm'.symm.trans hbefore)
  exact ⟨after, hafter⟩

theorem step_proceed_eq_some_iff {s t : System α} {i : Nat} {now : Instant} :
    s.step (.proceed i now) = some t ↔ ∃ caller caller' cache', s.callers[i]? = some caller ∧
      caller.proceed? s.cache now = some (caller', cache') ∧
        t = ⟨cache', s.callers.set i caller'⟩ := by
  simp only [step, proceed?]
  cases hi : s.callers[i]? with
  | none => simp
  | some caller =>
    simp only [Option.map_eq_some_iff, Prod.exists, Option.some.injEq]
    constructor
    · rintro ⟨caller', cache', hp, rfl⟩
      exact ⟨caller, caller', cache', rfl, hp, rfl⟩
    · rintro ⟨caller, caller', cache', rfl, hp, rfl⟩
      exact ⟨caller', cache', hp, rfl⟩

/-- How a waiting caller ends a call of refresh. -/
theorem answer_of_step {s t : System α} {i : Nat} {now : Instant} {kid : Option String}
    {next : Except CacheError VerificationKey → Inquiry α} {id : Nat} {cancelled : Bool}
    (hi : s.callers[i]? = some ⟨.ask (.refresh kid) next, some id, cancelled⟩)
    (hstep : s.step (.proceed i now) = some t) :
    cancelled = true ∧ t.callers[i]? = some ⟨next (.error .cancelled), none, true⟩ ∨
      cancelled = false ∧ ∃ outcome, s.cache.outcome? id = some outcome ∧
        t.callers[i]? = some ⟨next (s.cache.resolveOutcome kid outcome), none, false⟩ := by
  obtain ⟨caller, hcaller, ⟨-, hne⟩ | ⟨-, hne⟩ | ⟨_, _, hp⟩⟩ := caller_of_step hstep hi
  · exact absurd rfl (hne now)
  · cases hne
  · generalize t.cache = cache at hp
    cases hp with
    | giveUp => exact .inl ⟨rfl, hcaller⟩
    | learn kid next id outcome finished =>
      exact .inr ⟨rfl, outcome, by rw [Cache.outcome?, finished]; rfl, hcaller⟩

end System
end BearerAuth
