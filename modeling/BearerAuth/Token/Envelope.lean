import BearerAuth.Base64Url
import BearerAuth.Json.Reading
import BearerAuth.Text.Blank

/-!
# Token envelopes

A compact token is three non-empty segments between dots. The envelope is split before
anything in it is trusted: the size limit comes first, then the other serialization, which
begins with a brace and is always refused, then the segments. What is read from a header
here serves only to choose a key and to check the token's type.
-/
namespace BearerAuth

open Json

/-- The longest token, in bytes of its UTF-8 form. -/
def maxTokenBytes : Nat := 8192

/-- The two segments that hold JSON. -/
inductive Segment
  | header
  | payload
  deriving DecidableEq, Repr

namespace Segment

def name : Segment → String
  | header => "header"
  | payload => "payload"

end Segment

/-- What is wrong with the text in a segment. -/
inductive SegmentFault
  | notBase64Url
  | notJson
  | notObject
  deriving DecidableEq, Repr

namespace SegmentFault

def message : SegmentFault → String
  | notBase64Url => "is not base64url"
  | notJson => "is not valid JSON"
  | notObject => "is not a JSON object"

end SegmentFault

/-- Why a token is not well formed. -/
inductive Malformation
  | notThreeSegments
  | emptySegment
  | invalidSerialization
  | unsupportedSerialization
  | segment (which : Segment) (fault : SegmentFault)
  | missingAlgorithm
  deriving DecidableEq, Repr

namespace Malformation

def message : Malformation → String
  | notThreeSegments => "expected three dot-separated segments"
  | emptySegment => "empty token segment"
  | invalidSerialization => "invalid JSON serialization"
  | unsupportedSerialization => "JSON serialization is not supported"
  | segment which fault => which.name ++ " " ++ fault.message
  | missingAlgorithm => "header is missing alg"

end Malformation

inductive EnvelopeError
  | tooLarge
  | malformed (reason : Malformation)
  | multipleSignatures
  deriving DecidableEq, Repr

namespace EnvelopeError

def message : EnvelopeError → String
  | tooLarge => "token is too large"
  | malformed reason => "malformed token: " ++ reason.message
  | multipleSignatures => "tokens with more than one signature are not supported"

end EnvelopeError

structure CompactToken where
  header : String
  payload : String
  signature : String
  deriving DecidableEq, Repr

namespace CompactToken

/-- The text that the signature covers. -/
def signingInput (token : CompactToken) : String := token.header ++ "." ++ token.payload

/-- The token as it is sent. -/
def text (token : CompactToken) : String := token.signingInput ++ "." ++ token.signature

/-- The text before the first dot and the text after it. -/
def splitFirst? : List Char → Option (List Char × List Char)
  | [] => none
  | c :: rest =>
    if c = '.' then some ([], rest)
    else (splitFirst? rest).map fun (before, after) => (c :: before, after)

/-- The text before the last dot and the text after it. -/
def splitLast? (text : List Char) : Option (List Char × List Char) :=
  (splitFirst? text.reverse).map fun (after, before) => (before.reverse, after.reverse)

/-- The segments of a text. The signature is cut off first, since what comes before it is what
it covers. -/
def cut (text : List Char) : Except EnvelopeError CompactToken :=
  match splitLast? text with
  | none => .error (.malformed .notThreeSegments)
  | some (covered, signature) =>
    match splitFirst? covered with
    | none => .error (.malformed .notThreeSegments)
    | some (header, payload) =>
      if '.' ∈ payload then .error (.malformed .notThreeSegments)
      else if header = [] ∨ payload = [] ∨ signature = [] then .error (.malformed .emptySegment)
      else .ok ⟨String.ofList header, String.ofList payload, String.ofList signature⟩

/-- The error for a token in the serialization that is itself a JSON object. -/
def refuseSerialization (text : String) : EnvelopeError :=
  match Value.read? text with
  | none => .malformed .invalidSerialization
  | some document =>
    match (document.get? "signatures").bind Value.array? with
    | some (_ :: _ :: _) => .multipleSignatures
    | _ => .malformed .unsupportedSerialization

def parse (text : String) : Except EnvelopeError CompactToken :=
  if maxTokenBytes < text.utf8ByteSize then .error .tooLarge
  else if (Text.trimStart text.toList).head? = some '\x7b' then .error (refuseSerialization text)
  else cut text.toList

/-- The JSON object in a segment. -/
def decodeSegment (which : Segment) (segment : String) : Except EnvelopeError Members :=
  match Base64Url.decode? segment with
  | none => .error (.malformed (.segment which .notBase64Url))
  | some bytes =>
    match Value.ofBytes? bytes with
    | none => .error (.malformed (.segment which .notJson))
    | some (.object members) => .ok members
    | some _ => .error (.malformed (.segment which .notObject))

/-- The claims, which mean nothing before the signature has been verified. -/
def claims (token : CompactToken) : Except EnvelopeError Members :=
  decodeSegment .payload token.payload

end CompactToken

/-- Header fields, not yet verified. -/
structure Header where
  algorithm : String
  kid : Option String
  typ : Option String
  deriving DecidableEq, Repr

namespace Header

/-- Algorithm and identifier must not be empty; an identifier or a type of another shape
counts as absent. -/
def ofMembers (members : Members) : Except EnvelopeError Header :=
  let text (name : String) := (members.get? name).bind Value.string?
  match (text "alg").filter (· ≠ "") with
  | none => .error (.malformed .missingAlgorithm)
  | some algorithm => .ok ⟨algorithm, (text "kid").filter (· ≠ ""), text "typ"⟩

end Header

namespace CompactToken

def unverifiedHeader (token : CompactToken) : Except EnvelopeError Header :=
  match decodeSegment .header token.header with
  | .error fault => .error fault
  | .ok members => Header.ofMembers members

end CompactToken
end BearerAuth
