import BearerAuth.Key.VerificationKey

/-!
# Key sets

The usable keys of a key set document, in its order. Each entry is read on its own: one that
is no key, or a key of no use here, is left out and changes nothing for the others.
-/
namespace BearerAuth

open Json

/-- Why a document gives no key or no key set. -/
inductive DocumentFault
  | missingKeys
  | unusable (fault : KeyFault)
  | unreadable (detail : String)
  deriving DecidableEq, Repr

namespace DocumentFault

def message : DocumentFault → String
  | missingKeys => "missing keys array"
  | unusable fault => fault.message
  | unreadable detail => detail

end DocumentFault

structure KeySet where
  keys : List VerificationKey
  deriving DecidableEq, Repr

namespace KeySet

def empty : KeySet := ⟨[]⟩

/-- The key behind one entry, if it is a usable key. -/
def usable? (entry : Value) : Option VerificationKey :=
  (Jwk.ofValue? entry).bind fun jwk => (VerificationKey.ofJwk jwk).toOption

def ofEntries (entries : List Value) : KeySet := ⟨entries.filterMap usable?⟩

def ofDocument (document : Value) : Except DocumentFault KeySet :=
  match (document.get? "keys").bind Value.array? with
  | none => .error .missingKeys
  | some entries => .ok (ofEntries entries)

/-- The first key with this identifier. -/
def find? (set : KeySet) (kid : String) : Option VerificationKey :=
  set.keys.find? fun key => key.kid = some kid

/-- The only key, if there is exactly one. -/
def sole? (set : KeySet) : Option VerificationKey :=
  match set.keys with
  | [key] => some key
  | _ => none

end KeySet
end BearerAuth
