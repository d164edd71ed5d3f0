import BearerAuth.Address.Ipv6
import BearerAuth.DomainName.Ascii
import BearerAuth.Http.Escape

/-!
# Hosts

A host is an address or a name. An address of the longer kind stands in brackets. A name on
the web is a domain name in its ASCII form, and the address that it writes if it ends in a
number. Elsewhere a name can be any text without the characters that separate parts.
-/
namespace BearerAuth.Http

open Text Address

inductive Host
  | name (text : String)
  | ipv4 (address : Ipv4)
  | ipv6 (address : Ipv6)
  deriving Repr

namespace Host

def text : Host → String
  | name text => text
  | ipv4 address => address.text
  | ipv6 address => "[" ++ address.text ++ "]"

def ofBrackets? (text : List Char) : Option Host :=
  if text.getLast? = some ']' then (Ipv6.read? text.dropLast).map ipv6 else none

def ofDomainName? (domain : List Char) : Option Host :=
  if domain.isEmpty then none
  else if Ipv4.endsInNumber domain then (Ipv4.read? domain).map ipv4
  else some (name (String.ofList domain))

/-- A host on the web, which may be written with percent signs. -/
def ofWebText? (text : List Char) : Option Host :=
  match text with
  | '[' :: rest => ofBrackets? rest
  | _ =>
    (unescape? text).bind fun decoded =>
      (DomainName.toAscii? decoded.toList).bind ofDomainName?

/-- Characters that no name holds anywhere. -/
def separators : List Char :=
  ['\x00', '\t', '\n', '\r', ' ', '#', '/', ':', '<', '>', '?', '@', '[', '\\', ']', '^', '|']

/-- A host elsewhere. -/
def ofPlainText? (text : List Char) : Option Host :=
  match text with
  | '[' :: rest => ofBrackets? rest
  | _ =>
    if text.any separators.contains then none
    else some (name (String.ofList (escape [] text)))

end Host
end BearerAuth.Http
