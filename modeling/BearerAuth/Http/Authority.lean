import BearerAuth.Http.Host
import BearerAuth.Text.Pieces

/-!
# Authorities of URLs

Between two slashes and the path stand a host, a port and, in front of an `@`, the user who
asks. The scheme says which hosts there are, and the port that is used when none is given.
-/
namespace BearerAuth.Http

open Text

/-- What a scheme asks of the rest of a URL. -/
inductive SchemeKind
  /-- A host is needed, and this port is used when none is given. -/
  | web (port : Nat)
  /-- A path is needed, and a host only where the file is not on this machine. -/
  | file
  /-- Nothing is known, so that almost anything stays as it is written. -/
  | plain
  deriving DecidableEq, Repr

namespace SchemeKind

def ofName (name : String) : SchemeKind :=
  match name with
  | "http" | "ws" => web 80
  | "https" | "wss" => web 443
  | "ftp" => web 21
  | "file" => file
  | _ => plain

def defaultPort? : SchemeKind → Option Nat
  | web port => some port
  | _ => none

/-- Backslashes are slashes, except under plain schemes. -/
def isSlash (kind : SchemeKind) (c : Char) : Bool := c = '/' || (c = '\\' && kind != plain)

def querySpecials (kind : SchemeKind) : List Char :=
  if kind = plain then Http.querySpecials else '\'' :: Http.querySpecials

end SchemeKind

/-- Who is asked, and by whom. -/
structure Authority where
  user : List Char
  password : Option (List Char)
  host : Option Host
  port : Option Nat
  deriving Repr

namespace Authority

/-- No user, no host and no port. -/
def nobody : Authority := ⟨[], none, none, none⟩

def hasCredentials (authority : Authority) : Bool :=
  !authority.user.isEmpty || authority.password.isSome

def credentials (authority : Authority) : List Char :=
  if authority.hasCredentials then
    authority.user ++ (authority.password.elim [] (':' :: ·)) ++ ['@']
  else []

def text (authority : Authority) : List Char :=
  authority.credentials ++ (authority.host.elim [] (·.text.toList)) ++
    authority.port.elim [] fun port => ':' :: Nat.toDigits 10 port

/-- User and password are parted by the first colon, and an empty password is none. -/
def ofCredentials (text : List Char) : Authority :=
  let (user, password) := splitAt (· = ':') text
  { nobody with
    user := escape userSpecials user
    password := if password.length ≤ 1 then none else some (escape userSpecials (password.drop 1)) }

/-- Host and port; they are parted by the first colon outside of brackets. -/
def splitPort (inBrackets : Bool) : List Char → List Char × List Char
  | [] => ([], [])
  | c :: rest =>
    if c = ':' && !inBrackets then ([], c :: rest)
    else
      let (host, port) := splitPort (c = '[' || (inBrackets && c != ']')) rest
      (c :: host, port)

/-- The port after a colon, unless it is the default, and what follows it. Only a backslash
may follow. -/
def readPort? (default : Option Nat) (text : List Char) : Option (Option Nat × List Char) :=
  let digits := (text.drop 1).takeWhile isDigit
  let rest := (text.drop 1).dropWhile isDigit
  let port := if digits.isEmpty then none else some (decimalValue digits)
  if rest.head?.any (· ≠ '\\') || port.any (65536 ≤ ·) then none
  else some (if port = default then none else port, rest)

/-- The host that a text names; nothing names none, where a host may be missing. -/
def readHost? (kind : SchemeKind) (text : List Char) : Option (Option Host) :=
  if kind ≠ .plain then (Host.ofWebText? text).map some
  else if text.isEmpty then some none
  else (Host.ofPlainText? text).map some

/-- Read what stands between the slashes and the path, and what of it belongs to the path. All
before the last `@` are credentials. Credentials and port need a host. -/
def read? (kind : SchemeKind) (text : List Char) : Option (Authority × List Char) :=
  let server := (text.reverse.takeWhile (· ≠ '@')).reverse
  let authority := ofCredentials (text.take (text.length - server.length - 1))
  let (host, port) := splitPort false server
  match readHost? kind host, readPort? kind.defaultPort? port with
  | some host, some (number, rest) =>
    if host.isNone && (authority.hasCredentials || !port.isEmpty) then none
    else some ({ authority with host := host, port := number }, rest)
  | _, _ => none

end Authority
end BearerAuth.Http
