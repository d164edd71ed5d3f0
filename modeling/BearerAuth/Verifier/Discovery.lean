import BearerAuth.Json.Reading

/-!
# Provider metadata

A provider publishes a document that says where its keys are. The document is read field by
field: members of other names are skipped as they stand, whatever numbers, escapes or depth
they hold. One slash at the end of an issuer makes no difference, neither to where its document
stands nor to the comparison with the issuer that a document names.
-/
namespace BearerAuth

open Json

structure ProviderMetadata where
  issuer : Option String
  jwksUri : String
  deriving DecidableEq, Repr

/-- The issuer without one slash at its end. -/
def stripSlash (issuer : List Char) : List Char :=
  match issuer.reverse with
  | '/' :: rest => rest.reverse
  | _ => issuer

/-- Where the metadata document stands, relative to the issuer. -/
def metadataPath : String := "/.well-known/openid-configuration"

/-- Where an issuer publishes its metadata. -/
def metadataUrl (issuer : String) : String :=
  String.ofList (stripSlash issuer.toList) ++ metadataPath

namespace ProviderMetadata

/-- What a comparison reads of an issuer: one slash at its end is left out. -/
def trimmed (issuer : String) : List Char :=
  if issuer.toList.getLast? = some '/' then issuer.toList.dropLast else issuer.toList

/-- A document that names no issuer matches every one. -/
def issuerMatches (metadata : ProviderMetadata) (expected : String) : Bool :=
  match metadata.issuer with
  | none => true
  | some advertised => trimmed advertised = trimmed expected

def text? : Written → Option String
  | .string literal => StringLiteral.text? literal
  | _ => none

/-- Null stands for an absent text. -/
def optionalText? : Written → Option (Option String)
  | .null => some none
  | item => (text? item).map some

/-- The two fields as far as they have been met. -/
structure Fields where
  issuer : Option (Option String)
  jwksUri : Option String

/-- Take in one member; a field that comes twice or has another shape is refused. -/
def Fields.add? (fields : Fields) (member : StringLiteral × Written) : Option Fields :=
  match StringLiteral.text? member.1 with
  | none => none
  | some "issuer" =>
    match fields.issuer, optionalText? member.2 with
    | none, some issuer => some { fields with issuer := some issuer }
    | _, _ => none
  | some "jwks_uri" =>
    match fields.jwksUri, text? member.2 with
    | none, some uri => some { fields with jwksUri := some uri }
    | _, _ => none
  | some _ => some fields

/-- Members by name, or an array of exactly the two fields. -/
def ofWritten? : Written → Option ProviderMetadata
  | .object members =>
    match members.foldlM Fields.add? ⟨none, none⟩ with
    | some ⟨issuer, some uri⟩ => some ⟨issuer.join, uri⟩
    | _ => none
  | .array [issuer, uri] =>
    match optionalText? issuer, text? uri with
    | some issuer, some uri => some ⟨issuer, uri⟩
    | _, _ => none
  | _ => none

def read? (text : String) : Option ProviderMetadata := (Written.read? text).bind ofWritten?

end ProviderMetadata

inductive DiscoveryError
  | transport (detail : String)
  | status (code : Nat)
  | invalidDocument (detail : String)
  deriving DecidableEq, Repr

namespace DiscoveryError

def message : DiscoveryError → String
  | transport detail => "failed to fetch provider metadata: " ++ detail
  | status code => "provider metadata endpoint returned status " ++ toString code
  | invalidDocument detail => "invalid provider metadata: " ++ detail

end DiscoveryError
end BearerAuth
