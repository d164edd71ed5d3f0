import BearerAuth.DomainName.Direction
import BearerAuth.DomainName.Folding
import BearerAuth.DomainName.Joining
import BearerAuth.Text.Composition
import BearerAuth.Text.Punycode

/-!
# The ASCII form of domain names

A name is folded, composed and cut into labels at its dots. A label that is written with a
mark in front of letters and digits is read back first, and has to be one that folding and
composing leave alone, so that it is not a second spelling of another. Then the labels are
checked, and those that are not ASCII are written with the mark. Empty labels are let through.
-/
namespace BearerAuth.DomainName

open Text

/-- What stands before a label that is written with letters and digits. -/
def encodedMark : List Char := "xn--".toList

def isAscii (c : Char) : Bool := c.toNat < 128

/-- The ASCII characters that no name holds: controls, the blank, and what separates the
parts of a URL. -/
def isForbidden (c : Char) : Bool :=
  c.toNat ≤ 32 || c.toNat = 127 || "%#/:<>?@[\\]^|".toList.contains c

/-- The longest label that is written with letters and digits. -/
def maxDecodedLength : Nat := 1000

/-- The longest run of letters and digits that is read back. -/
def maxEncodedLength : Nat := 2000

/-- The label that letters and digits stand for. It is never one of ASCII alone. -/
def decodeLabel? (encoded : List Char) : Option (List Char) :=
  if encoded.isEmpty || encoded.getLast? = some '-' || !encoded.all isAscii ||
      maxEncodedLength < encoded.length then none
  else
    (Punycode.decode? encoded).filter fun label => label.all isFolded && compose label == label

/-- Read a label back if it has the mark. -/
def readLabel? (label : List Char) : Option (List Char) :=
  if encodedMark.isPrefixOf label then decodeLabel? (label.drop encodedMark.length)
  else some label

/-- A label holds no forbidden character, does not begin with a combining mark, and its
joiners stand where they may. -/
def isWellFormed (label : List Char) : Bool :=
  !label.any isForbidden && !label.head?.any isMark && joinersFit [] label &&
    (label.all isAscii || label.length ≤ maxDecodedLength)

def writeLabel (label : List Char) : List Char :=
  if label.all isAscii then label else encodedMark ++ Punycode.encode label

/-- The ASCII form of a name. -/
def toAscii? (name : List Char) : Option (List Char) :=
  match name.mapM fold? with
  | none => none
  | some folded =>
    match (pieces (· = '.') (compose folded.flatten)).mapM readLabel? with
    | none => none
    | some labels =>
      if labels.all isWellFormed && directionsFit labels then
        some (joined '.' (labels.map writeLabel))
      else none

end BearerAuth.DomainName
