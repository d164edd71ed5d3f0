import BearerAuth.Bytes
import BearerAuth.Number.Power

/-!
# SHA-2

SHA-256 works on words of thirty-two bits, SHA-384 and SHA-512 on words of sixty-four. They
share one construction: the padded message is cut into blocks of sixteen words, each block
is extended to one word per round, and the rounds stir it into eight registers.
-/
namespace BearerAuth.Crypto.Sha2

structure Registers (W : Type) where
  a : W
  b : W
  c : W
  d : W
  e : W
  f : W
  g : W
  h : W

/-- What tells the members of the family apart. -/
structure Variant (W : Type) where
  wordBytes : Nat
  constants : List W
  start : Registers W
  upper0 : W → W
  upper1 : W → W
  lower0 : W → W
  lower1 : W → W
  ofNat : Nat → W
  toNat : W → Nat

/-- Fractional parts of the cube roots of the first eighty primes, to sixty-four bits. -/
def cubeRoots : List Nat :=
  [0x428a2f98d728ae22, 0x7137449123ef65cd, 0xb5c0fbcfec4d3b2f,
   0xe9b5dba58189dbbc, 0x3956c25bf348b538, 0x59f111f1b605d019,
   0x923f82a4af194f9b, 0xab1c5ed5da6d8118, 0xd807aa98a3030242,
   0x12835b0145706fbe, 0x243185be4ee4b28c, 0x550c7dc3d5ffb4e2,
   0x72be5d74f27b896f, 0x80deb1fe3b1696b1, 0x9bdc06a725c71235,
   0xc19bf174cf692694, 0xe49b69c19ef14ad2, 0xefbe4786384f25e3,
   0x0fc19dc68b8cd5b5, 0x240ca1cc77ac9c65, 0x2de92c6f592b0275,
   0x4a7484aa6ea6e483, 0x5cb0a9dcbd41fbd4, 0x76f988da831153b5,
   0x983e5152ee66dfab, 0xa831c66d2db43210, 0xb00327c898fb213f,
   0xbf597fc7beef0ee4, 0xc6e00bf33da88fc2, 0xd5a79147930aa725,
   0x06ca6351e003826f, 0x142929670a0e6e70, 0x27b70a8546d22ffc,
   0x2e1b21385c26c926, 0x4d2c6dfc5ac42aed, 0x53380d139d95b3df,
   0x650a73548baf63de, 0x766a0abb3c77b2a8, 0x81c2c92e47edaee6,
   0x92722c851482353b, 0xa2bfe8a14cf10364, 0xa81a664bbc423001,
   0xc24b8b70d0f89791, 0xc76c51a30654be30, 0xd192e819d6ef5218,
   0xd69906245565a910, 0xf40e35855771202a, 0x106aa07032bbd1b8,
   0x19a4c116b8d2d0c8, 0x1e376c085141ab53, 0x2748774cdf8eeb99,
   0x34b0bcb5e19b48a8, 0x391c0cb3c5c95a63, 0x4ed8aa4ae3418acb,
   0x5b9cca4f7763e373, 0x682e6ff3d6b2b8a3, 0x748f82ee5defb2fc,
   0x78a5636f43172f60, 0x84c87814a1f0ab72, 0x8cc702081a6439ec,
   0x90befffa23631e28, 0xa4506cebde82bde9, 0xbef9a3f7b2c67915,
   0xc67178f2e372532b, 0xca273eceea26619c, 0xd186b8c721c0c207,
   0xeada7dd6cde0eb1e, 0xf57d4f7fee6ed178, 0x06f067aa72176fba,
   0x0a637dc5a2c898a6, 0x113f9804bef90dae, 0x1b710b35131c471b,
   0x28db77f523047d84, 0x32caab7b40c72493, 0x3c9ebe0a15c9bebc,
   0x431d67c49c100d4c, 0x4cc5d4becb3e42b6, 0x597f299cfc657e2a,
   0x5fcb6fab3ad6faec, 0x6c44198c4a475817]

/-- Fractional parts of the square roots of the first sixteen primes, to sixty-four bits. -/
def squareRoots : List Nat :=
  [0x6a09e667f3bcc908, 0xbb67ae8584caa73b, 0x3c6ef372fe94f82b,
   0xa54ff53a5f1d36f1, 0x510e527fade682d1, 0x9b05688c2b3e6c1f,
   0x1f83d9abfb41bd6b, 0x5be0cd19137e2179, 0xcbbb9d5dc1059ed8,
   0x629a292a367cd507, 0x9159015a3070dd17, 0x152fecd8f70e5939,
   0x67332667ffc00b31, 0x8eb44a8768581511, 0xdb0c2e0d64f98fa7,
   0x47b5481dbefa4fa4]

def registersOf {W : Type} (ofNat : Nat → W) (values : List Nat) : Registers W :=
  let word (i : Nat) := ofNat (values.getD i 0)
  ⟨word 0, word 1, word 2, word 3, word 4, word 5, word 6, word 7⟩

def rotate32 (n : UInt32) (x : UInt32) : UInt32 := (x >>> n) ||| (x <<< (32 - n))

def rotate64 (n : UInt64) (x : UInt64) : UInt64 := (x >>> n) ||| (x <<< (64 - n))

def sha256Variant : Variant UInt32 where
  wordBytes := 4
  constants := (cubeRoots.take 64).map fun n => UInt32.ofNat (n / 2 ^ 32)
  start := registersOf UInt32.ofNat ((squareRoots.take 8).map (· / 2 ^ 32))
  upper0 x := rotate32 2 x ^^^ rotate32 13 x ^^^ rotate32 22 x
  upper1 x := rotate32 6 x ^^^ rotate32 11 x ^^^ rotate32 25 x
  lower0 x := rotate32 7 x ^^^ rotate32 18 x ^^^ (x >>> 3)
  lower1 x := rotate32 17 x ^^^ rotate32 19 x ^^^ (x >>> 10)
  ofNat := UInt32.ofNat
  toNat := UInt32.toNat

def sha512Variant : Variant UInt64 where
  wordBytes := 8
  constants := cubeRoots.map UInt64.ofNat
  start := registersOf UInt64.ofNat (squareRoots.take 8)
  upper0 x := rotate64 28 x ^^^ rotate64 34 x ^^^ rotate64 39 x
  upper1 x := rotate64 14 x ^^^ rotate64 18 x ^^^ rotate64 41 x
  lower0 x := rotate64 1 x ^^^ rotate64 8 x ^^^ (x >>> 7)
  lower1 x := rotate64 19 x ^^^ rotate64 61 x ^^^ (x >>> 6)
  ofNat := UInt64.ofNat
  toNat := UInt64.toNat

def sha384Variant : Variant UInt64 :=
  { sha512Variant with start := registersOf UInt64.ofNat (squareRoots.drop 8) }

section
variable {W : Type} [Add W] [AndOp W] [XorOp W] [Complement W]

/-- Bytes in one block of sixteen words. -/
def Variant.blockBytes (v : Variant W) : Nat := 16 * v.wordBytes

/-- The message, a one bit, zeros, and the length in bits in the last two words. -/
def Variant.padded (v : Variant W) (message : Bytes) : Bytes :=
  let framed := message.length + 1 + 2 * v.wordBytes
  let zeros := (v.blockBytes - framed % v.blockBytes) % v.blockBytes
  message ++ 0x80 :: List.replicate zeros 0 ++ Bytes.ofNat (2 * v.wordBytes) (8 * message.length)

/-- The next words of the schedule, each from the sixteen before it. -/
def Variant.extend (v : Variant W) : (rounds : Nat) → List W → List W
  | rounds + 1, first :: rest =>
    match rest[0]?, rest[8]?, rest[13]? with
    | some second, some tenth, some fifteenth =>
      first :: v.extend rounds (rest ++ [v.lower1 fifteenth + tenth + v.lower0 second + first])
    | _, _, _ => []
  | _, _ => []

def Variant.round (v : Variant W) (r : Registers W) (key : W × W) : Registers W :=
  let choice := (r.e &&& r.f) ^^^ (~~~r.e &&& r.g)
  let majority := (r.a &&& r.b) ^^^ (r.a &&& r.c) ^^^ (r.b &&& r.c)
  let first := r.h + v.upper1 r.e + choice + key.1 + key.2
  let second := v.upper0 r.a + majority
  ⟨first + second, r.a, r.b, r.c, r.d + first, r.e, r.f, r.g⟩

def Registers.add (x y : Registers W) : Registers W :=
  ⟨x.a + y.a, x.b + y.b, x.c + y.c, x.d + y.d, x.e + y.e, x.f + y.f, x.g + y.g, x.h + y.h⟩

/-- Groups of `n` elements; a shorter rest is dropped. -/
def groups {α : Type} (n : Nat) : (count : Nat) → List α → List (List α)
  | 0, _ => []
  | count + 1, xs => xs.take n :: groups n count (xs.drop n)

def Variant.compress (v : Variant W) (r : Registers W) (block : Bytes) : Registers W :=
  let words := (groups v.wordBytes 16 block).map fun bytes => v.ofNat (Bytes.toNat bytes)
  let schedule := v.extend v.constants.length words
  r.add ((v.constants.zip schedule).foldl v.round r)

def Variant.digest (v : Variant W) (message : Bytes) : Bytes :=
  let padded := v.padded message
  let blocks := groups v.blockBytes (padded.length / v.blockBytes) padded
  let r := blocks.foldl v.compress v.start
  [r.a, r.b, r.c, r.d, r.e, r.f, r.g, r.h].flatMap fun word =>
    Bytes.ofNat v.wordBytes (v.toNat word)

end
end Sha2

/-- A hash function with the length of its digests and of its blocks. -/
inductive Hash
  | sha256
  | sha384
  | sha512
  deriving DecidableEq, Repr

namespace Hash

def digestBytes : Hash → Nat
  | sha256 => 32
  | sha384 => 48
  | sha512 => 64

def blockBytes : Hash → Nat
  | sha256 => 64
  | sha384 => 128
  | sha512 => 128

def digest (hash : Hash) (message : Bytes) : Bytes :=
  match hash with
  | sha256 => Sha2.sha256Variant.digest message
  | sha384 => (Sha2.sha384Variant.digest message).take 48
  | sha512 => Sha2.sha512Variant.digest message

end Hash

end BearerAuth.Crypto
