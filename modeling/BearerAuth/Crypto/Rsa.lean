import BearerAuth.Crypto.Modular
import BearerAuth.Crypto.Sha2

/-!
# RSA signatures

Both paddings of PKCS #1: version 1.5, and PSS with a salt as long as the digest. Keys are
accepted within bounds on modulus and exponent; a signature is as long as the modulus.
-/
namespace BearerAuth.Crypto.Rsa

structure PublicKey where
  modulus : Nat
  exponent : Nat
  deriving DecidableEq, Repr

namespace PublicKey

/-- Bits in the modulus. -/
def bits (key : PublicKey) : Nat := key.modulus.log2 + 1

/-- Bytes in the modulus, and so in each signature. -/
def size (key : PublicKey) : Nat := (key.bits + 7) / 8

/-- Read from big-endian components without leading zeros. The modulus is odd and takes
256 to 1024 bytes, the exponent is odd and between three and `2 ^ 33 - 1`. -/
def ofBytes? (modulus exponent : Bytes) : Option PublicKey :=
  if modulus.head? = some 0 ∨ exponent.head? = some 0 then none
  else
    let key : PublicKey := ⟨Bytes.toNat modulus, Bytes.toNat exponent⟩
    if 256 ≤ key.size ∧ key.size ≤ 1024 ∧ key.modulus % 2 = 1 ∧
        3 ≤ key.exponent ∧ key.exponent < 2 ^ 33 ∧ key.exponent % 2 = 1 then some key
    else none

/-- The encoded message that a signature opens to, as many bytes as the modulus. -/
def open? (key : PublicKey) (signature : Bytes) : Option Bytes :=
  let value := Bytes.toNat signature
  if signature.length = key.size ∧ value < key.modulus then
    some (Bytes.ofNat key.size (powMod key.modulus value key.exponent))
  else none

end PublicKey

/-- What stands before a digest to name its hash function. -/
def digestHeader : Hash → Bytes
  | .sha256 => [0x30, 0x31, 0x30, 0x0d, 0x06, 0x09, 0x60, 0x86, 0x48, 0x01, 0x65, 0x03, 0x04,
      0x02, 0x01, 0x05, 0x00, 0x04, 0x20]
  | .sha384 => [0x30, 0x41, 0x30, 0x0d, 0x06, 0x09, 0x60, 0x86, 0x48, 0x01, 0x65, 0x03, 0x04,
      0x02, 0x02, 0x05, 0x00, 0x04, 0x30]
  | .sha512 => [0x30, 0x51, 0x30, 0x0d, 0x06, 0x09, 0x60, 0x86, 0x48, 0x01, 0x65, 0x03, 0x04,
      0x02, 0x03, 0x05, 0x00, 0x04, 0x40]

/-- The encoded message of version 1.5. -/
def encodeBlock (hash : Hash) (size : Nat) (message : Bytes) : Bytes :=
  let tail := 0 :: digestHeader hash ++ hash.digest message
  0 :: 1 :: List.replicate (size - 2 - tail.length) 0xff ++ tail

def verifyBlock (hash : Hash) (key : PublicKey) (message signature : Bytes) : Bool :=
  key.open? signature = some (encodeBlock hash key.size message)

/-- As many bytes as asked for, by hashing the seed with a counter. -/
def expandMask (hash : Hash) (seed : Bytes) (length : Nat) : Bytes :=
  let blocks := (length + hash.digestBytes - 1) / hash.digestBytes
  let stream := (List.range blocks).flatMap fun counter =>
    hash.digest (seed ++ Bytes.ofNat 4 counter)
  stream.take length

/-- Check an encoded message of PSS that is `bits` bits long. -/
def checkSalted (hash : Hash) (bits : Nat) (message encoded : Bytes) : Bool :=
  let digestBytes := hash.digestBytes
  let size := (bits + 7) / 8
  let maskedLength := size - digestBytes - 1
  let unused := 8 * size - bits
  let masked := encoded.take maskedLength
  let digest := (encoded.drop maskedLength).take digestBytes
  let data := Bytes.xor masked (expandMask hash digest maskedLength)
  -- bits beyond the stated length are zero in what was signed and ignored in the data
  let topZero := (masked.headD 0).toNat < 2 ^ (8 - unused)
  let data := match data with
    | first :: rest => UInt8.ofNat (first.toNat % 2 ^ (8 - unused)) :: rest
    | [] => []
  let zeros := maskedLength - digestBytes - 1
  let salt := data.drop (zeros + 1)
  let again := hash.digest (List.replicate 8 0 ++ hash.digest message ++ salt)
  2 * digestBytes + 2 ≤ size && encoded.length = size && encoded.getLast? = some 0xbc && topZero &&
    data.take (zeros + 1) = List.replicate zeros 0 ++ [1] && again = digest

def verifySalted (hash : Hash) (key : PublicKey) (message signature : Bytes) : Bool :=
  match key.open? signature with
  | none => false
  | some encoded =>
    let bits := key.bits - 1
    let spare := key.size - (bits + 7) / 8
    (encoded.take spare).all (· = 0) && checkSalted hash bits message (encoded.drop spare)

end BearerAuth.Crypto.Rsa
