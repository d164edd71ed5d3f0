import BearerAuth.Crypto.Modular
import BearerAuth.Crypto.Sha2

/-!
# Ed25519

Signatures on the twisted Edwards curve `y ^ 2 - x ^ 2 = 1 + d * x ^ 2 * y ^ 2` modulo
`2 ^ 255 - 19`. Points carry a common denominator and the product of their coordinates, so
that additions need no division.
-/
namespace BearerAuth.Crypto.Ed25519

def field : Nat := 2 ^ 255 - 19

/-- The order of the base point. -/
def order : Nat := 2 ^ 252 + 27742317777372353535851937790883648493

def d : Nat := 37095705934669439343138083508754565189542113879843219016388785533085940283555

/-- A square root of minus one. -/
def rootOfMinusOne : Nat :=
  19681161376707505956807079304988542015446066515923890162744021073123829784752

/-- The point `(x / z, y / z)` with `x * y = z * t`. -/
structure Point where
  x : Nat
  y : Nat
  z : Nat
  t : Nat
  deriving DecidableEq, Repr

namespace Point

def zero : Point := ⟨0, 1, 1, 0⟩

def base : Point :=
  let x := 15112221349535400772501151409588531511454012693041857206046113283949847762202
  let y := 46316835694926478169428394003475163141307993866256225615783033603165251855960
  ⟨x, y, 1, x * y % field⟩

def add (p q : Point) : Point :=
  let a := subMod field p.y p.x * subMod field q.y q.x % field
  let b := (p.y + p.x) * (q.y + q.x) % field
  let c := 2 * p.t * q.t % field * d % field
  let e := 2 * p.z * q.z % field
  let f := subMod field b a
  let g := subMod field e c
  let h := e + c
  let i := b + a
  ⟨f * g % field, h * i % field, g * h % field, f * i % field⟩

def neg (p : Point) : Point := ⟨subMod field 0 p.x, p.y, p.z, subMod field 0 p.t⟩

/-- `n` times a point, by doubling. -/
def times (n : Nat) (p : Point) : Point :=
  if n = 0 then zero
  else
    let half := times (n / 2) p
    let twice := half.add half
    if n % 2 = 0 then twice else twice.add p
  termination_by n
  decreasing_by omega

/-- The `y` coordinate, with the lowest bit of `x` above it. -/
def encode (p : Point) : Bytes :=
  let inverse := inverseMod field p.z
  let x := p.x * inverse % field
  let y := p.y * inverse % field
  Bytes.ofNatLittle 32 (y + x % 2 * 2 ^ 255)

/-- The point with an encoding; `y` is taken modulo the field. -/
def decode? (encoded : Bytes) : Option Point :=
  let value := Bytes.toNatLittle encoded
  let y := value % 2 ^ 255 % field
  let sign := value / 2 ^ 255
  let numerator := subMod field (y * y) 1
  let denominator := (d * y * y + 1) % field
  let square := numerator * inverseMod field denominator % field
  let root := powMod field square ((field + 3) / 8)
  let root := if root * root % field = square then root else root * rootOfMinusOne % field
  if encoded.length = 32 ∧ root * root % field = square then
    let x := if root % 2 = sign then root else subMod field 0 root
    some ⟨x, y, 1, x * y % field⟩
  else none

end Point

/-- A digest as a number modulo the order. -/
def reduce (parts : List Bytes) : Nat :=
  Bytes.toNatLittle (Hash.sha512.digest parts.flatten) % order

/-- The secret number of a seed: a multiple of eight between `2 ^ 254` and `2 ^ 255`. -/
def secretScalar (seed : Bytes) : Nat :=
  let value := Bytes.toNatLittle ((Hash.sha512.digest seed).take 32)
  2 ^ 254 + (value % 2 ^ 254) / 8 * 8

def publicKey (seed : Bytes) : Bytes := (Point.base.times (secretScalar seed)).encode

def sign (seed message : Bytes) : Bytes :=
  let key := publicKey seed
  let nonce := reduce [(Hash.sha512.digest seed).drop 32, message]
  let commitment := (Point.base.times nonce).encode
  let challenge := reduce [commitment, key, message]
  commitment ++ Bytes.ofNatLittle 32 ((nonce + challenge * secretScalar seed) % order)

/-- The second half of a signature is below the order, and the first half is the encoding
of the point that the equation gives. -/
def verify (key message signature : Bytes) : Bool :=
  match Point.decode? key with
  | none => false
  | some point =>
    let commitment := signature.take 32
    let response := Bytes.toNatLittle (signature.drop 32)
    let challenge := reduce [commitment, key, message]
    signature.length = 64 && response < order &&
      ((Point.base.times response).add (point.neg.times challenge)).encode = commitment

end BearerAuth.Crypto.Ed25519
