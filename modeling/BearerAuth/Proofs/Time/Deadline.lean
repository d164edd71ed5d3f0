import BearerAuth.Claim.Expiry
import Mathlib.Tactic.Common

/-!
# Deadlines

Sums of instants and spans are exact in nanoseconds. There is none only where it would lie
beyond the last instant, and so beyond every clock.
-/
namespace BearerAuth

namespace Instant

theorem of?_eq_some_iff {seconds : Int} {nanos : Nat} {t : Instant} :
    of? seconds nanos = some t ↔ t.seconds = seconds ∧ t.nanos = nanos := by
  unfold of?
  split
  · next h =>
    rw [Option.some.injEq, Instant.ext_iff]
    exact and_congr eq_comm eq_comm
  · next h =>
    refine iff_of_false nofun ?_
    rintro ⟨rfl, rfl⟩
    exact h ⟨t.nanos_lt, t.first_le, t.le_last⟩

theorem of?_eq_none_iff {seconds : Int} {nanos : Nat} :
    of? seconds nanos = none ↔
      ¬ (nanos < nanosPerSecond ∧ firstSecond ≤ seconds ∧ seconds ≤ lastSecond) := by
  unfold of?
  split
  · next h => exact iff_of_false nofun (not_not_intro h)
  · next h => exact iff_of_true rfl h

theorem add?_eq_some_iff {t sum : Instant} {span : Span} :
    t.add? span = some sum ↔ sum.toNanos = t.toNanos + span.toNanos := by
  have := sum.nanos_lt
  rw [add?, of?_eq_some_iff]
  simp only [toNanos, Span.toNanos, nanosPerSecond] at *
  omega

/-- There is no sum exactly if it would come after every instant. -/
theorem add?_eq_none_iff {t : Instant} {span : Span} :
    t.add? span = none ↔ ∀ u : Instant, u.toNanos < t.toNanos + span.toNanos := by
  constructor
  · intro hnone u
    have := t.first_le
    have := u.le_last
    have := u.nanos_lt
    rw [add?, of?_eq_none_iff] at hnone
    simp only [toNanos, Span.toNanos, nanosPerSecond] at *
    omega
  · intro hlater
    cases hsum : t.add? span with
    | none => rfl
    | some sum =>
      have := hlater sum
      rw [add?_eq_some_iff.mp hsum] at this
      exact absurd this (Int.lt_irrefl _)

end Instant

namespace Claim

/-- A drift that is too long to be added leads from the first instant beyond the last one. -/
theorem lt_add_of_not_le {drift : Span} (h : ¬ drift.le Span.longestAdded = true)
    (t u : Instant) : u.toNanos < t.toNanos + drift.toNanos := by
  have := t.first_le
  have := u.le_last
  have := u.nanos_lt
  rw [Span.le_iff_toNanos] at h
  simp only [Span.longestAdded, Span.toNanos, Instant.toNanos, firstSecond, lastSecond,
    nanosPerSecond] at *
  omega

theorem deadline?_eq_some {expiresAt deadline : Instant} {drift : Span}
    (h : deadline? expiresAt drift = some deadline) :
    deadline.toNanos = expiresAt.toNanos + drift.toNanos := by
  unfold deadline? at h
  split at h
  · exact Instant.add?_eq_some_iff.mp h
  · cases h

/-- Whatever keeps the deadline from being an instant, it would come after every one. -/
theorem lt_of_deadline?_eq_none {expiresAt : Instant} {drift : Span}
    (h : deadline? expiresAt drift = none) (u : Instant) :
    u.toNanos < expiresAt.toNanos + drift.toNanos := by
  unfold deadline? at h
  split at h
  · exact Instant.add?_eq_none_iff.mp h u
  · next hlong => exact lt_add_of_not_le hlong expiresAt u

/-- A token is good while its expiry with the drift lies strictly after now. -/
theorem checkExpiry_eq_ok_iff {expiresAt now : Instant} {drift : Span} :
    checkExpiry expiresAt drift now = .ok () ↔
      now.toNanos < expiresAt.toNanos + drift.toNanos := by
  unfold checkExpiry
  cases hsum : deadline? expiresAt drift with
  | none => exact iff_of_true rfl (lt_of_deadline?_eq_none hsum now)
  | some deadline =>
    rw [← deadline?_eq_some hsum]
    by_cases hle : deadline.le now = true
    · simp only [hle, if_true]
      exact iff_of_false nofun (Int.not_lt.mpr (Instant.le_iff_toNanos.mp hle))
    · simp only [hle]
      exact iff_of_true rfl (Int.not_le.mp fun h => hle (Instant.le_iff_toNanos.mpr h))

/-- The error names the expiry as it was read, without the drift. -/
theorem checkExpiry_eq_error_iff {expiresAt now : Instant} {drift : Span} {rejection : Rejection} :
    checkExpiry expiresAt drift now = .error rejection ↔
      expiresAt.toNanos + drift.toNanos ≤ now.toNanos ∧ rejection = .expired expiresAt := by
  rw [← Int.not_lt, ← checkExpiry_eq_ok_iff]
  unfold checkExpiry
  split
  · split
    · simp [eq_comm]
    · simp
  · simp

/-- How an expiry, a drift and a time of any size are judged, and what does not make it worse. -/
structure ExpiryJudged (expiresAt : Instant) (drift : Span) (now : Instant) : Prop where
  good : checkExpiry expiresAt drift now = .ok () ↔
    now.toNanos < expiresAt.toNanos + drift.toNanos
  expired : checkExpiry expiresAt drift now = .error (.expired expiresAt) ↔
    expiresAt.toNanos + drift.toNanos ≤ now.toNanos
  total : checkExpiry expiresAt drift now = .ok () ∨
    checkExpiry expiresAt drift now = .error (.expired expiresAt)
  /-- A later expiry, a longer drift and an earlier time. -/
  kept : ∀ expiresAt' drift' now', expiresAt.toNanos ≤ expiresAt'.toNanos →
    drift.toNanos ≤ drift'.toNanos → now'.toNanos ≤ now.toNanos →
      checkExpiry expiresAt drift now = .ok () → checkExpiry expiresAt' drift' now' = .ok ()

/-- The check is exact, also for drifts and sums that are too large to be computed. -/
theorem expiry_judged (expiresAt : Instant) (drift : Span) (now : Instant) :
    ExpiryJudged expiresAt drift now := by
  have hexpired : checkExpiry expiresAt drift now = .error (.expired expiresAt) ↔
      expiresAt.toNanos + drift.toNanos ≤ now.toNanos := by
    rw [checkExpiry_eq_error_iff, and_iff_left rfl]
  refine { good := checkExpiry_eq_ok_iff, expired := hexpired, total := ?_, kept := ?_ }
  · rw [checkExpiry_eq_ok_iff, hexpired]
    exact Int.lt_or_le _ _
  · intro expiresAt' drift' now' hlater hlonger hearlier hgood
    rw [checkExpiry_eq_ok_iff] at hgood ⊢
    omega

end Claim
end BearerAuth
