/-!
# Spans of time

Whole seconds and a nanosecond part below one second. A span is shown in the largest of
four units that leaves a whole part, with as many decimals as it needs.
-/
namespace BearerAuth

def nanosPerSecond : Nat := 1000000000

theorem nanosPerSecond_pos : 0 < nanosPerSecond := by decide

structure Span where
  seconds : Nat
  nanos : Nat
  nanos_lt : nanos < nanosPerSecond
  deriving DecidableEq, Repr

namespace Span

/-- The length in nanoseconds. -/
def toNanos (span : Span) : Nat := span.seconds * nanosPerSecond + span.nanos

def ofNanos (nanos : Nat) : Span :=
  ⟨nanos / nanosPerSecond, nanos % nanosPerSecond, Nat.mod_lt _ (by decide)⟩

def ofSeconds (seconds : Nat) : Span := ⟨seconds, 0, by decide⟩

def ofMillis (millis : Nat) : Span := ofNanos (millis * 1000000)

/-- Not longer. -/
def le (a b : Span) : Bool :=
  a.seconds < b.seconds ∨ (a.seconds = b.seconds ∧ a.nanos ≤ b.nanos)

theorem le_iff_toNanos {a b : Span} : a.le b = true ↔ a.toNanos ≤ b.toNanos := by
  have := a.nanos_lt
  have := b.nanos_lt
  simp only [le, toNanos, nanosPerSecond, decide_eq_true_eq] at *
  omega

/-- The longest span that is ever added to an instant: as many milliseconds as a signed word of
sixty-four bits counts. -/
def longestAdded : Span := ⟨9223372036854775, 807000000, by decide⟩

@[simp] theorem toNanos_ofNanos (nanos : Nat) : (ofNanos nanos).toNanos = nanos := by
  simp only [toNanos, ofNanos]
  exact Nat.div_add_mod' nanos nanosPerSecond

@[simp] theorem toNanos_ofSeconds (seconds : Nat) :
    (ofSeconds seconds).toNanos = seconds * nanosPerSecond := by simp [toNanos, ofSeconds]

theorem ext_toNanos {a b : Span} (h : a.toNanos = b.toNanos) : a = b := by
  obtain ⟨s, n, hn⟩ := a
  obtain ⟨t, m, hm⟩ := b
  simp only [toNanos, nanosPerSecond] at h hn hm
  obtain ⟨rfl, rfl⟩ : s = t ∧ n = m := by omega
  rfl

def isZero (span : Span) : Bool := span.toNanos = 0

/-- The fewest decimals that write `part / 10 ^ places`, behind a point; nothing for zero. -/
def decimals (places part : Nat) : String :=
  let digits := Nat.toDigits 10 part
  let padded := List.replicate (places - digits.length) '0' ++ digits
  let kept := (padded.reverse.dropWhile (· == '0')).reverse
  if kept.isEmpty then "" else "." ++ String.ofList kept

def display (span : Span) : String :=
  if 0 < span.seconds then toString span.seconds ++ decimals 9 span.nanos ++ "s"
  else if 1000000 ≤ span.nanos then
    toString (span.nanos / 1000000) ++ decimals 6 (span.nanos % 1000000) ++ "ms"
  else if 1000 ≤ span.nanos then
    toString (span.nanos / 1000) ++ decimals 3 (span.nanos % 1000) ++ "µs"
  else toString span.nanos ++ "ns"

end Span
end BearerAuth
