import BearerAuth.Claim.Kind

/-!
# Containment of claims

A requirement is met by at least what it names: every required key must be there, every
required element of a sequence must have a match among the received ones, and scalars must
be equal. Values are never converted, and null never meets anything. The fault reported is
the first in the order of keys; faults inside a sequence belong to the sequence.
-/
namespace BearerAuth.Claim

open Json

/-- Scalars of one kind, by value. -/
def checkScalar (equal : Bool) : Except ClaimFault Unit :=
  if equal then .ok () else .error ⟨[], .value⟩

mutual
/-- Check that `received` contains `required`. The path of a fault starts below this value. -/
def check : (required received : Value) → Except ClaimFault Unit
  | .string want, .string got => checkScalar (want = got)
  | .number want, .number got => checkScalar (want.same got)
  | .bool want, .bool got => checkScalar (want = got)
  | .array want, .array got => if covers want got then .ok () else .error ⟨[], .value⟩
  | .object want, .object got => checkMembers want got
  | required, received => .error ⟨[], .kind required.kind received.kind⟩

/-- Every required element has a received one that contains it. -/
def covers : (required received : List Value) → Bool
  | [], _ => true
  | want :: rest, received =>
    received.any (fun got => (check want got).isOk) && covers rest received

/-- Every required key is there with a value that contains the required one. -/
def checkMembers : (required : List (String × Value)) → (received : Members) →
    Except ClaimFault Unit
  | [], _ => .ok ()
  | (name, want) :: rest, received =>
    match received.get? name with
    | none => .error ⟨[name], .missing⟩
    | some got =>
      match check want got with
      | .error fault => .error (fault.under name)
      | .ok () => checkMembers rest received
end

/-- Check a claim that has a name of its own. -/
def checkNamed (name : String) (required received : Value) : Except ClaimFault Unit :=
  match check required received with
  | .error fault => .error (fault.under name)
  | .ok () => .ok ()

end BearerAuth.Claim
