import BearerAuth.Bytes
import BearerAuth.Text.Numeral

/-!
# Percent encoding

In a URL, bytes that cannot stand for themselves are written as a percent sign and two
hexadecimal digits. Which characters are written so differs from part to part; controls and
all that is not ASCII are in every part.
-/
namespace BearerAuth.Http

def upperHexDigit (digit : Nat) : Char := (Nat.digitChar digit).toUpper

def escapeByte (byte : UInt8) : List Char :=
  ['%', upperHexDigit (byte.toNat / 16), upperHexDigit (byte.toNat % 16)]

def isAlwaysEscaped (c : Char) : Bool := c.toNat < 32 || 126 < c.toNat

/-- Encode the bytes of the characters that are special in a part. -/
def escape (special text : List Char) : List Char :=
  text.flatMap fun c =>
    if isAlwaysEscaped c || special.contains c then
      (Bytes.ofText (String.singleton c)).flatMap escapeByte
    else [c]

/-- The bytes of a text. A percent sign without two digits after it stands for itself. -/
def unescape : List Char → Bytes
  | '%' :: high :: low :: rest =>
    match Text.hexValue? high, Text.hexValue? low with
    | some high, some low => UInt8.ofNat (high * 16 + low) :: unescape rest
    | _, _ => Bytes.ofText "%" ++ unescape (high :: low :: rest)
  | c :: rest => Bytes.ofText (String.singleton c) ++ unescape rest
  | [] => []

/-- The text whose bytes are encoded, if they are those of one. -/
def unescape? (text : List Char) : Option String := Bytes.text? (unescape text)

def pathSpecials : List Char := [' ', '"', '#', '<', '>', '?', '`', '\x7b', '\x7d']

def userSpecials : List Char :=
  pathSpecials ++ ['/', ':', ';', '=', '@', '[', '\\', ']', '^', '|']

def querySpecials : List Char := [' ', '"', '#', '<', '>']

def fragmentSpecials : List Char := [' ', '"', '<', '>', '`']

end BearerAuth.Http
