import BearerAuth.Crypto.Modular
import BearerAuth.Crypto.Sha2

/-!
# ECDSA on short Weierstrass curves

Points of `y ^ 2 = x ^ 3 - 3 * x + b` over a prime field, added by chord and tangent, and
the verification equation on the two curves in use.
-/
namespace BearerAuth.Crypto.Weierstrass

structure Curve where
  field : Nat
  b : Nat
  order : Nat
  generatorX : Nat
  generatorY : Nat
  /-- Bytes in a coordinate and in each half of a signature. -/
  size : Nat

def p256 : Curve where
  field := 0xffffffff00000001000000000000000000000000ffffffffffffffffffffffff
  b := 0x5ac635d8aa3a93e7b3ebbd55769886bc651d06b0cc53b0f63bce3c3e27d2604b
  order := 0xffffffff00000000ffffffffffffffffbce6faada7179e84f3b9cac2fc632551
  generatorX := 0x6b17d1f2e12c4247f8bce6e563a440f277037d812deb33a0f4a13945d898c296
  generatorY := 0x4fe342e2fe1a7f9b8ee7eb4a7c0f9e162bce33576b315ececbb6406837bf51f5
  size := 32

def p384 : Curve where
  field := 0xfffffffffffffffffffffffffffffffffffffffffffffffffffffffffffffffeffffffff0000000000000000ffffffff
  b := 0xb3312fa7e23ee7e4988e056be3f82d19181d9c6efe8141120314088f5013875ac656398d8a2ed19d2a85c8edd3ec2aef
  order := 0xffffffffffffffffffffffffffffffffffffffffffffffffc7634d81f4372ddf581a0db248b0a77aecec196accc52973
  generatorX := 0xaa87ca22be8b05378eb1c71ef320ad746e1d3b628ba79b9859f741e082542a385502f25dbf55296c3a545e3872760ab7
  generatorY := 0x3617de4a96262c6f5d9e98bf9292dc29f8f41dbd289a147ce9da3113b5f0b8c00a60b1ce1d7e819d7a431d7c90ea0e5f
  size := 48

inductive Point
  | infinity
  | affine (x y : Nat)
  deriving DecidableEq, Repr

namespace Curve

def contains (curve : Curve) (x y : Nat) : Bool :=
  x < curve.field && y < curve.field &&
    y * y % curve.field = subMod curve.field (x * x * x + curve.b) (3 * x)

/-- The third point of the curve on the line through `(x₁, y₁)` with the given slope and
`(x₂, _)`, with its `y` negated. -/
def chord (curve : Curve) (slope x₁ y₁ x₂ : Nat) : Point :=
  let x := subMod curve.field (slope * slope) (x₁ + x₂)
  .affine x (subMod curve.field (slope * subMod curve.field x₁ x) y₁)

def add (curve : Curve) : Point → Point → Point
  | .infinity, q => q
  | p, .infinity => p
  | .affine x₁ y₁, .affine x₂ y₂ =>
    if x₁ = x₂ then
      if (y₁ + y₂) % curve.field = 0 then .infinity
      else
        let slope := subMod curve.field (3 * x₁ * x₁) 3 * inverseMod curve.field (2 * y₁)
        curve.chord (slope % curve.field) x₁ y₁ x₁
    else
      let slope := subMod curve.field y₂ y₁ * inverseMod curve.field (subMod curve.field x₂ x₁)
      curve.chord (slope % curve.field) x₁ y₁ x₂

/-- `n` times a point, by doubling. -/
def times (curve : Curve) (n : Nat) (p : Point) : Point :=
  if n = 0 then .infinity
  else
    let half := curve.times (n / 2) p
    let twice := curve.add half half
    if n % 2 = 0 then twice else curve.add twice p
  termination_by n
  decreasing_by omega

/-- A public key from the uncompressed form of a point on the curve. -/
def point? (curve : Curve) (encoded : Bytes) : Option Point :=
  match encoded with
  | 4 :: coordinates =>
    let x := Bytes.toNat (coordinates.take curve.size)
    let y := Bytes.toNat (coordinates.drop curve.size)
    if coordinates.length = 2 * curve.size ∧ curve.contains x y = true then some (.affine x y)
    else none
  | _ => none

/-- Check a signature, written as two numbers of fixed length, over a digest. The digest is
no longer than the order. -/
def verifyDigest (curve : Curve) (key : Point) (digest signature : Bytes) : Bool :=
  let r := Bytes.toNat (signature.take curve.size)
  let s := Bytes.toNat (signature.drop curve.size)
  if signature.length = 2 * curve.size ∧ 0 < r ∧ r < curve.order ∧ 0 < s ∧ s < curve.order then
    let inverse := inverseMod curve.order s
    let u := Bytes.toNat digest * inverse % curve.order
    let v := r * inverse % curve.order
    let generator := Point.affine curve.generatorX curve.generatorY
    match curve.add (curve.times u generator) (curve.times v key) with
    | .infinity => false
    | .affine x _ => x % curve.order = r
  else false

/-- Check a signature under an encoded public key. -/
def verify (curve : Curve) (hash : Hash) (key message signature : Bytes) : Bool :=
  match curve.point? key with
  | none => false
  | some point => curve.verifyDigest point (hash.digest message) signature

end Curve
end BearerAuth.Crypto.Weierstrass
