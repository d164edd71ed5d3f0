import BearerAuth.Cache.Snapshot
import Mathlib.Tactic.Common

/-!
# Which key, and with which algorithm

A key is found by its identifier or by being alone, and verifies with the algorithm that it
declares. A token names an algorithm for a key without one, within the family of the key.
-/
namespace BearerAuth

namespace VerificationKey

/-- The key is good for the algorithm in a token that names `named`. -/
def Binds (key : VerificationKey) (named : String) (algorithm : Algorithm) : Prop :=
  key.algorithm = some algorithm ∨
    key.algorithm = none ∧ algorithm.name = named ∧ key.family.allows algorithm = true

theorem algorithmFor_eq_some_iff {key : VerificationKey} {named : String} {algorithm : Algorithm} :
    key.algorithmFor named = some algorithm ↔ key.Binds named algorithm := by
  unfold algorithmFor Binds
  cases hdeclared : key.algorithm with
  | some declared => simp
  | none =>
    simp only [Option.filter_eq_some_iff, Algorithm.ofName?_eq_some_iff, reduceCtorEq, false_or,
      true_and]

/-- Verification is one check of a signature, with the algorithm that the key is bound to. -/
theorem verify_eq_true_iff {key : VerificationKey} {input : Bytes} {signature named : String} :
    key.verify input signature named = true ↔ ∃ algorithm, key.Binds named algorithm ∧
      key.material.checkSignature algorithm input signature = true := by
  simp only [← algorithmFor_eq_some_iff, verify]
  cases key.algorithmFor named with
  | none => simp
  | some algorithm => simp

end VerificationKey

theorem KeySet.sole?_eq_some_iff {set : KeySet} {key : VerificationKey} :
    set.sole? = some key ↔ set.keys = [key] := by
  unfold sole?
  split
  · next only h => simp [h]
  · next h => exact iff_of_false nofun (h key)

namespace Snapshot

/-- The snapshot holds the key as the one to use for a token: as its only key if identifiers
are disabled, else under the identifier of the token. -/
def Offers (snapshot : Snapshot) (keyIdDisabled : Bool) (kid : Option String)
    (key : VerificationKey) : Prop :=
  key ∈ snapshot.keys.keys ∧ (keyIdDisabled = true → snapshot.keys.keys = [key]) ∧
    (keyIdDisabled = false → ∃ name, kid = some name ∧ key.kid = some name)

theorem Offers.of_disabled {snapshot : Snapshot} {kid : Option String} {key : VerificationKey}
    (h : snapshot.Offers true kid key) (other : Option String) : snapshot.Offers true other key :=
  ⟨h.1, h.2.1, nofun⟩

theorem offers_of_resolve {snapshot : Snapshot} {keyIdDisabled : Bool} {kid : Option String}
    {key : VerificationKey} (h : snapshot.resolve keyIdDisabled kid = some key) :
    snapshot.Offers keyIdDisabled kid key := by
  unfold resolve at h
  cases keyIdDisabled with
  | true =>
    rw [if_pos rfl, KeySet.sole?_eq_some_iff] at h
    exact ⟨by simp [h], fun _ => h, nofun⟩
  | false =>
    rw [if_neg Bool.false_ne_true] at h
    obtain ⟨name, rfl, hfind⟩ := Option.bind_eq_some_iff.mp h
    refine ⟨List.mem_of_find?_eq_some hfind, nofun, fun _ => ⟨name, rfl, ?_⟩⟩
    simpa using List.find?_some hfind

end Snapshot
end BearerAuth
