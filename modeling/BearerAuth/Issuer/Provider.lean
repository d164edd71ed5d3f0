import BearerAuth.Http.Network
import BearerAuth.Issuer.SigningKey

/-!
# Identity providers

A provider at a base URL with two documents, its metadata and its key set. What it serves as
key set can be replaced, or made to fail, while its metadata stay.
-/
namespace BearerAuth

open Json Http

structure Provider where
  /-- The base URL, which is also the issuer. -/
  base : String
  keySet : HttpReply

namespace Provider

def keySetPath : String := "/protocol/openid-connect/certs"

def issuer (provider : Provider) : String := provider.base

def discoveryUrl (provider : Provider) : String := provider.base ++ metadataPath

def jwksUrl (provider : Provider) : String := provider.base ++ keySetPath

def metadata (provider : Provider) : Value :=
  .object (Members.ofPairs
    [("issuer", .string provider.issuer), ("jwks_uri", .string provider.jwksUrl),
      ("id_token_signing_alg_values_supported", .array [.string "EdDSA"])])

/-- Publish a document as key set. -/
def serve (provider : Provider) (document : Value) : Provider :=
  { provider with keySet := .response 200 document.print }

/-- Publish other keys. -/
def rotate (provider : Provider) (keys : List SigningKey) : Provider :=
  provider.serve (SigningKey.jwks keys)

/-- Answer requests for the key set with a status and nothing else. -/
def fail (provider : Provider) (status : Nat) : Provider :=
  { provider with keySet := .response status "" }

/-- Answer requests for the key set later than anyone waits. -/
def stall (provider : Provider) : Provider := { provider with keySet := .hang }

/-- What the provider serves now, in place of what it served before. -/
def publish (provider : Provider) (network : Network) : Network :=
  { network with
    routes := [(provider.discoveryUrl, [.response 200 provider.metadata.print]),
      (provider.jwksUrl, [provider.keySet])] }

/-- Requests that have reached a URL. -/
def requestCount (network : Network) (url : String) : Nat := (network.requests.lookup url).getD 0

end Provider
end BearerAuth
