/-!
# Modular arithmetic

Powers by repeated squaring and inverses by Euclid's algorithm, on residues below the modulus.
-/
namespace BearerAuth.Crypto

/-- `base ^ exponent` modulo `modulus`. -/
def powMod (modulus base exponent : Nat) : Nat :=
  if exponent = 0 then 1 % modulus
  else
    let half := powMod modulus base (exponent / 2)
    let square := half * half % modulus
    if exponent % 2 = 0 then square else square * base % modulus
  termination_by exponent
  decreasing_by omega

/-- Euclid's algorithm on `older` and `newer`, with a factor of the input for each. -/
def inverseLoop (older newer : Nat) (olderFactor newerFactor : Int) : Int :=
  if newer = 0 then olderFactor
  else
    inverseLoop newer (older % newer) newerFactor
      (olderFactor - (older / newer : Nat) * newerFactor)
  termination_by newer
  decreasing_by exact Nat.mod_lt _ (by omega)

/-- The inverse of `x` for a prime modulus; zero for zero. -/
def inverseMod (modulus x : Nat) : Nat :=
  (inverseLoop modulus (x % modulus) 0 1 % modulus).toNat

/-- `a - b` for residues. -/
def subMod (modulus a b : Nat) : Nat := (a + (modulus - b % modulus)) % modulus

end BearerAuth.Crypto
