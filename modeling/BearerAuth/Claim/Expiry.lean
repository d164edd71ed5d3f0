import BearerAuth.Claim.Kind
import BearerAuth.Time.Instant
import BearerAuth.Validation.Rejection

/-!
# Expiry

The claim `exp` as an instant, and the check against the clock. Integers are read exactly;
fractions of a second are rounded to the nanosecond, which may carry into the next second.
A token is good while its expiry plus the tolerated drift lies strictly after now.
-/
namespace BearerAuth.Claim

open Json

/-- The instant nearest to a number of seconds that is no integer of sixty-four bits. The
fraction is a double itself, and so is its product with a thousand million. -/
def instantOfDouble? (value : Binary64) : Option Instant :=
  if 2 ^ 63 * Binary64.unitsPerOne ≤ value.units.natAbs then none
  else
    let seconds := value.floor
    let fraction? := Binary64.ofUnits? (value.units - seconds * Binary64.unitsPerOne)
    let nanos? := fraction?.bind fun fraction =>
      (Binary64.ofInt? nanosPerSecond).bind fun scale => fraction.mul? scale
    nanos?.bind fun scaled =>
      let nanos := scaled.nearestInt.toNat
      if nanosPerSecond ≤ nanos then Instant.of? (seconds + 1) 0 else Instant.of? seconds nanos

/-- The instant that a number of seconds stands for, if it is representable. -/
def instantOfNumber? : Number → Option Instant
  | .integer value _ =>
    if value < 2 ^ 63 then Instant.of? value 0
    else (Binary64.ofInt? value).bind instantOfDouble?
  | .double value => instantOfDouble? value

def expiryTime (claims : Members) : Except ClaimFault Instant :=
  match claims.get? "exp" with
  | none => .error ⟨["exp"], .missing⟩
  | some (.number number) =>
    match instantOfNumber? number with
    | some instant => .ok instant
    | none => .error ⟨["exp"], .value⟩
  | some other => .error ⟨["exp"], .kind .number other.kind⟩

/-- The moment from which on a token is no longer good. There is none if the drift is too long
to be added, or the sum is no instant. -/
def deadline? (expiresAt : Instant) (drift : Span) : Option Instant :=
  if drift.le Span.longestAdded then expiresAt.add? drift else none

/-- Without a deadline a token is good at all times. -/
def checkExpiry (expiresAt : Instant) (drift : Span) (now : Instant) : Except Rejection Unit :=
  match deadline? expiresAt drift with
  | some deadline => if deadline.le now then .error (.expired expiresAt) else .ok ()
  | none => .ok ()

end BearerAuth.Claim
