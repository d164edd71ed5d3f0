import BearerAuth.Http.Url
import BearerAuth.Simulation.Source
import BearerAuth.Verifier.Discovery

/-!
# A network of scripted routes

One GET gives a status and a body, or fails. A network holds replies for some URLs, counts
the requests that reach it, and may be out of reach altogether: then no request arrives
anywhere, and none is counted.
-/
namespace BearerAuth.Http

inductive HttpReply
  | response (status : Nat) (body : String)
  | drop
  | hang
  deriving DecidableEq, Repr

/-- Why a request has no response. -/
inductive RequestError
  | notAbsolute
  | notRequestable (url : String)
  | noResponse (url : String)
  /-- The time allowed for the request has passed. -/
  | overdue (url : String)
  deriving DecidableEq, Repr

namespace RequestError

def message : RequestError → String
  | notAbsolute => "builder error"
  | notRequestable url => "builder error for url (" ++ url ++ ")"
  | noResponse url | overdue url => "error sending request for url (" ++ url ++ ")"

end RequestError

structure Response where
  status : Nat
  body : String
  deriving DecidableEq, Repr

/-- What comes of one request. A response whose body breaks off after the status has a body that is
no document: both are refused at the same step, as an `undecodableBody`. -/
abbrev Exchange := Except RequestError Response

structure Network where
  reachable : Bool
  routes : List (String × List HttpReply)
  requests : List (String × Nat)

namespace Network

/-- Put `value` under `key`, in place of the entry that is there. -/
def put {α : Type} (entries : List (String × α)) (key : String) (value : α) : List (String × α) :=
  if entries.any (·.1 = key) then
    entries.map fun entry => if entry.1 = key then (key, value) else entry
  else entries ++ [(key, value)]

/-- The next reply for a URL. The last one left stays, and a URL without replies is not found. -/
def nextReply (network : Network) (url : String) : HttpReply × Network :=
  match (network.routes.lookup url).getD [] with
  | [] => (.response 404 "", network)
  | [last] => (last, network)
  | first :: rest => (first, { network with routes := put network.routes url rest })

def count (network : Network) (url : String) : Network :=
  { network with
    requests := put network.requests url ((network.requests.lookup url).getD 0 + 1) }

/-- Statuses whose responses have no body. -/
def hasBody (status : Nat) : Bool := status ≠ 204 ∧ status ≠ 304

/-- Send one request. -/
def get (network : Network) (text : String) : Exchange × Network :=
  match (Url.parse? text).map Url.withoutCredentials with
  | none => (.error .notAbsolute, network)
  | some url =>
    if !url.isRequestable then (.error (.notRequestable url.text), network)
    else if !network.reachable then (.error (.noResponse url.text), network)
    else
      let (reply, network) := (network.count url.text).nextReply url.text
      match reply with
      | .response status body => (.ok ⟨status, if hasBody status then body else ""⟩, network)
      | .drop | .hang => (.error (.noResponse url.text), network)

end Network

def Response.isSuccess (response : Response) : Bool :=
  200 ≤ response.status ∧ response.status < 300

/-- What is said of a body that is no document of the expected form. -/
def undecodableBody : String := "error decoding response body"

/-- The key set that one exchange gives. -/
def keySetOf (exchange : Exchange) : Except CacheError KeySet :=
  match exchange with
  | .error error => .error (.transport error.message)
  | .ok response =>
    if !response.isSuccess then .error (.status response.status)
    else
      match Json.Value.read? response.body with
      | none => .error (.invalidDocument (.unreadable undecodableBody))
      | some document => (KeySet.ofDocument document).mapError .invalidDocument

/-- The provider metadata that one exchange gives; they must say where the keys are. -/
def metadataOf (exchange : Exchange) : Except DiscoveryError ProviderMetadata :=
  match exchange with
  | .error error => .error (.transport error.message)
  | .ok response =>
    if !response.isSuccess then .error (.status response.status)
    else
      match ProviderMetadata.read? response.body with
      | none => .error (.invalidDocument undecodableBody)
      | some metadata =>
        if metadata.jwksUri = "" then .error (.invalidDocument "empty jwks_uri") else .ok metadata

/-- The key sets that a network serves under one URL, each at once. -/
def keySetSource (url : String) : Source Network where
  start network := network
  delay _ := 0
  take network :=
    let (exchange, network) := network.get url
    ((keySetOf exchange, 0), network)

end BearerAuth.Http
