import BearerAuth.Http.Authority
import BearerAuth.Http.Path

/-!
# Absolute URLs

A URL is taken apart and written again in one form: blanks around it and line breaks in it
go, scheme and host become lower case, the port of the scheme is dropped, dots in the path are
resolved, and what may not stand in a part is percent-encoded. On the web a host is needed,
and any slashes of either kind lead to it. A text without a scheme is no absolute URL.
-/
namespace BearerAuth.Http

open Text

/-- An absolute URL in its written form. The path is escaped, as are query and fragment. -/
structure Url where
  scheme : String
  authority : Option Authority
  path : List Char
  query : Option (List Char)
  fragment : Option (List Char)
  deriving Repr

namespace Url

/-- A path that begins with two slashes would read as an authority where there is none. -/
def pathText (url : Url) : List Char :=
  match url.authority, url.path with
  | none, '/' :: '/' :: _ => '/' :: '.' :: url.path
  | _, path => path

def text (url : Url) : String :=
  url.scheme ++ ":" ++ String.ofList
    ((url.authority.elim [] fun authority => '/' :: '/' :: authority.text) ++ url.pathText ++
      url.query.elim [] ('?' :: ·) ++ url.fragment.elim [] ('#' :: ·))

def isControlOrSpace (c : Char) : Bool := c.toNat ≤ 32

/-- Drop controls and spaces at both ends, and tabs and line breaks everywhere. -/
def clean (cs : List Char) : List Char :=
  let trimmed := ((cs.dropWhile isControlOrSpace).reverse.dropWhile isControlOrSpace).reverse
  trimmed.filter fun c => c ≠ '\t' ∧ c ≠ '\n' ∧ c ≠ '\r'

def isSchemeChar (c : Char) : Bool := isAlpha c || isDigit c || c = '+' || c = '-' || c = '.'

def isSchemeName (name : List Char) : Bool := name.head?.any isAlpha && name.all isSchemeChar

/-- Authority and path of a URL on the web. -/
def readWeb? (kind : SchemeKind) (body : List Char) : Option (Option Authority × List Char) :=
  let (authority, path) := splitAt kind.isSlash (body.dropWhile kind.isSlash)
  (Authority.read? kind authority).map fun (authority, _) =>
    (some authority, Http.pathText (segments false kind.isSlash path))

/-- A path of files has one slash in front, and one that begins with a drive has no host. -/
def ofFile (host : Option Host) (path : List Char) : Option Authority × List Char :=
  let found := segments true SchemeKind.file.isSlash path
  let host := if found.head?.any isDrive then none else host
  (some { Authority.nobody with host := host },
    '/' :: (Http.pathText found).dropWhile (· = '/'))

/-- Authority and path of a file. This machine is no host of its own. -/
def readFile? (body : List Char) : Option (Option Authority × List Char) :=
  match body with
  | first :: second :: rest =>
    if SchemeKind.file.isSlash first && SchemeKind.file.isSlash second then
      let (host, path) := splitAt SchemeKind.file.isSlash rest
      if host.isEmpty then some (ofFile none path)
      else if isDrive host then some (ofFile none rest)
      else
        (Host.ofWebText? host).map fun host =>
          ofFile (if host.text = "localhost" then none else some host) path
    else some (ofFile none body)
  | _ => some (ofFile none body)

/-- Authority and path under a scheme of which nothing is known. Without slashes there is no
path to resolve. An `@` alone is no authority unless the URL ends there. -/
def readPlain? (body : List Char) (atEnd : Bool) : Option (Option Authority × List Char) :=
  let resolved := fun path =>
    if path = [] then []
    else Http.pathText (segments false SchemeKind.plain.isSlash path)
  match body with
  | '/' :: '/' :: rest =>
    let (authority, path) := splitAt (· = '/') rest
    if authority = ['@'] && !(path.isEmpty && atEnd) then none
    else
      (Authority.read? .plain authority).map fun (authority, after) =>
        (some authority, resolved (after ++ path))
  | '/' :: _ => some (none, resolved body)
  | _ => some (none, escape [] body)

/-- Authority and path; `atEnd` says that neither query nor fragment follows. -/
def read? (kind : SchemeKind) (body : List Char) (atEnd : Bool) :
    Option (Option Authority × List Char) :=
  match kind with
  | .web _ => readWeb? kind body
  | .file => readFile? body
  | .plain => readPlain? body atEnd

def parse? (text : String) : Option Url :=
  let (scheme, rest) := splitAt (· = ':') (clean text.toList)
  if rest.isEmpty || !isSchemeName scheme then none
  else
    let name := String.ofList (scheme.map Char.toLower)
    let kind := SchemeKind.ofName name
    let (rest, fragment) := splitAt (· = '#') (rest.drop 1)
    let (body, query) := splitAt (· = '?') rest
    (read? kind body (query.isEmpty && fragment.isEmpty)).map fun (authority, path) =>
      { scheme := name
        authority := authority
        path := path
        query := query.tail?.map (escape kind.querySpecials)
        fragment := fragment.tail?.map (escape fragmentSpecials) }

/-- Credentials go into a header of the request and out of its URL, if they are text. -/
def withoutCredentials (url : Url) : Url :=
  match url.authority with
  | none => url
  | some authority =>
    match unescape? authority.user with
    | none => url
    | some user =>
      if user ≠ "" || (authority.password.bind unescape?).isSome then
        { url with authority := some { authority with user := [], password := none } }
      else url

/-- The longest URL that can be requested, in bytes. -/
def maxRequestBytes : Nat := 65534

/-- Characters that a host may hold, but not the host of a request. -/
def unsendable : List Char := ['"', '`', '\x7b', '\x7d']

/-- Whether a request can be sent there. -/
def isRequestable (url : Url) : Bool :=
  (url.scheme = "http" || url.scheme = "https") &&
    url.text.utf8ByteSize ≤ maxRequestBytes &&
    !url.authority.any fun authority => authority.text.any unsendable.contains

end Url
end BearerAuth.Http
