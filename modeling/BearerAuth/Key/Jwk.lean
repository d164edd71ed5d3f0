import BearerAuth.Json.Value
import BearerAuth.Key.Algorithm

/-!
# JSON Web Keys

The members of a key object that matter here, read from a JSON value. A known member of the
wrong shape makes the whole key unreadable; an optional one may also be null. Words from a
fixed list may be written plainly or as the one key of an object that holds null.
-/
namespace BearerAuth

open Json

/-- Public or shared key material as written, still in base64url. -/
inductive JwkMaterial
  | ec (x y : String)
  | rsa (n e : String)
  | oct (k : String)
  | okp (x : String)
  deriving DecidableEq, Repr

structure Jwk where
  use : Option String
  algorithm : Option DeclaredAlgorithm
  kid : Option String
  material : JwkMaterial
  deriving DecidableEq, Repr

namespace JwkMaterial

def family : JwkMaterial → KeyFamily
  | ec _ _ => .ec
  | rsa _ _ => .rsa
  | oct _ => .hmac
  | okp _ => .okp

end JwkMaterial

namespace Jwk

/-- A word, plain or as `{word: null}`. -/
def word? : Value → Option String
  | .string text => some text
  | .object [(text, .null)] => some text
  | _ => none

def strings? : List Value → Option (List String)
  | [] => some []
  | item :: rest =>
    match item.string?, strings? rest with
    | some text, some texts => some (text :: texts)
    | _, _ => none

/-- An optional member: nothing if it is absent or null, and a failure if `read` refuses it. -/
def optional? {α : Type} (members : Members) (name : String) (read : Value → Option α) :
    Option (Option α) :=
  match members.get? name with
  | none => some none
  | some .null => some none
  | some value => (read value).map some

/-- Whether an optional member is absent or can be read. -/
def acceptable {α : Type} (members : Members) (name : String) (read : Value → Option α) : Bool :=
  (optional? members name read).isSome

def text? (members : Members) (name : String) : Option String :=
  (members.get? name).bind Value.string?

def curves : List String := ["P-256", "P-384", "P-521", "Ed25519"]

/-- The curve must be a known one; which one makes no difference. -/
def hasCurve (members : Members) : Bool :=
  match (members.get? "crv").bind word? with
  | some name => curves.contains name
  | none => false

def material? (members : Members) : Option JwkMaterial :=
  match (members.get? "kty").bind word? with
  | some "EC" =>
    match text? members "x", text? members "y" with
    | some x, some y => if hasCurve members then some (.ec x y) else none
    | _, _ => none
  | some "RSA" =>
    match text? members "n", text? members "e" with
    | some n, some e => some (.rsa n e)
    | _, _ => none
  | some "oct" => (text? members "k").map .oct
  | some "OKP" =>
    match text? members "x" with
    | some x => if hasCurve members then some (.okp x) else none
    | none => none
  | _ => none

def algorithm? (value : Value) : Option DeclaredAlgorithm :=
  (word? value).bind fun name => DeclaredAlgorithm.all.find? fun algorithm => algorithm.name = name

/-- The members that are checked but not kept. -/
def hasAcceptableExtras (members : Members) : Bool :=
  acceptable members "key_ops" (fun value => value.array?.bind strings?) &&
    acceptable members "x5c" (fun value => value.array?.bind strings?) &&
    ["x5u", "x5t", "x5t#S256"].all fun name => acceptable members name Value.string?

def ofMembers? (members : Members) : Option Jwk :=
  match optional? members "use" Value.string?, optional? members "alg" algorithm?,
      optional? members "kid" Value.string?, material? members with
  | some use, some algorithm, some kid, some material =>
    if hasAcceptableExtras members then some ⟨use, algorithm, kid, material⟩ else none
  | _, _, _, _ => none

def ofValue? (value : Value) : Option Jwk := value.object?.bind ofMembers?

end Jwk
end BearerAuth
