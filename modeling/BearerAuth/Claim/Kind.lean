import BearerAuth.Json.Value

/-!
# Kinds of claim values

The six shapes a claim may have, and how a claim can fail a requirement. A fault points at
the claim by the names that lead to it, outermost first.
-/
namespace BearerAuth

open Json

inductive Kind
  | string
  | number
  | bool
  | sequence
  | mapping
  | null
  deriving DecidableEq, Repr

namespace Kind

def name : Kind → String
  | string => "string"
  | number => "number"
  | bool => "bool"
  | sequence => "sequence"
  | mapping => "mapping"
  | null => "null"

end Kind

def Json.Value.kind : Value → Kind
  | .string _ => .string
  | .number _ => .number
  | .bool _ => .bool
  | .array _ => .sequence
  | .object _ => .mapping
  | .null => .null

/-- How the value at one position fails its requirement. -/
inductive Mismatch
  | missing
  | kind (required received : Kind)
  | value
  deriving DecidableEq, Repr

structure ClaimFault where
  path : List String
  mismatch : Mismatch
  deriving DecidableEq, Repr

namespace ClaimFault

/-- The same fault seen from an object that holds the value under `name`. -/
def under (name : String) (fault : ClaimFault) : ClaimFault :=
  { fault with path := name :: fault.path }

/-- The names joined by dots. -/
def claim (fault : ClaimFault) : String := String.intercalate "." fault.path

def message (fault : ClaimFault) : String :=
  match fault.mismatch with
  | .missing => "required claim `" ++ fault.claim ++ "` is missing"
  | .kind required received =>
    "claim `" ++ fault.claim ++ "` is a " ++ received.name ++ ", expected a " ++ required.name
  | .value => "claim `" ++ fault.claim ++ "` does not contain the required value"

end ClaimFault
end BearerAuth
