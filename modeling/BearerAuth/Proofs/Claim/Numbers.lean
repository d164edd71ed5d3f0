import BearerAuth.Proofs.Claim.Containment
import BearerAuth.Proofs.Number.Rounding

/-!
# Comparing numbers

Two numbers are compared by their exact values as long as they are both integers or both doubles.
An integer and a double are compared as doubles, and that is exact as well for every integer that
is a double. Any other integer is the same as the double it is rounded to, whose value is another.
-/
namespace BearerAuth

open Json

namespace Json.Number

def isInteger : Number → Bool
  | integer _ _ => true
  | double _ => false

/-- An integer whose value no double has, and the double that it is rounded to. -/
def Blurs : Number → Number → Prop
  | integer n _, double x =>
    (∀ y : Binary64, y.units ≠ n * Binary64.unitsPerOne) ∧
      x.IsNearest (n * Binary64.unitsPerOne)
  | _, _ => False

@[simp] theorem units_integer (n : Int) (fits : FitsWord n) :
    (integer n fits).units = n * Binary64.unitsPerOne := rfl

@[simp] theorem units_double (x : Binary64) : (double x).units = x.units := rfl

theorem log2_le_of_fits {n : Int} (fits : FitsWord n) : n.natAbs.log2 ≤ 1022 := by
  obtain ⟨hlow, hhigh⟩ := fits
  by_cases hzero : n.natAbs = 0
  · rw [hzero]
    decide
  · have hlog := (Nat.log2_lt (k := 65) hzero).mpr (by omega)
    omega

@[simp] theorem same_integers {m n : Int} {hm : FitsWord m} {hn : FitsWord n} :
    (integer m hm).same (integer n hn) = true ↔ m = n := by simp [same]

@[simp] theorem same_doubles {x y : Binary64} :
    (double x).same (double y) = true ↔ x.units = y.units := by simp [same, toBinary64?]

@[simp] theorem same_integer_double {n : Int} {fits : FitsWord n} {x : Binary64} :
    (integer n fits).same (double x) = true ↔ x.IsNearest (n * Binary64.unitsPerOne) := by
  obtain ⟨rounded, hrounded, hnearest⟩ := Binary64.exists_ofInt (log2_le_of_fits fits)
  rw [hnearest]
  simp only [same, toBinary64?, hrounded, decide_eq_true_eq]
  exact eq_comm

@[simp] theorem same_double_integer {n : Int} {fits : FitsWord n} {x : Binary64} :
    (double x).same (integer n fits) = true ↔ x.IsNearest (n * Binary64.unitsPerOne) := by
  obtain ⟨rounded, hrounded, hnearest⟩ := Binary64.exists_ofInt (log2_le_of_fits fits)
  rw [hnearest]
  simp only [same, toBinary64?, hrounded, decide_eq_true_eq]

theorem units_integer_inj {m n : Int} (hm : FitsWord m) (hn : FitsWord n) :
    (integer m hm).units = (integer n hn).units ↔ m = n := by
  have hpos : (Binary64.unitsPerOne : Int) ≠ 0 := by
    have := Binary64.unitsPerOne_pos
    omega
  exact Int.mul_eq_mul_right_iff hpos

/-- The nearest double has the value itself, unless no double has it. -/
theorem isNearest_iff {x : Binary64} {value : Int} :
    x.IsNearest value ↔
      x.units = value ∨ ((∀ y : Binary64, y.units ≠ value) ∧ x.IsNearest value) := by
  constructor
  · intro hx
    by_cases hexact : ∃ y : Binary64, y.units = value
    · obtain ⟨y, hy⟩ := hexact
      exact .inl (((Binary64.isNearest_iff_of_units_eq hy x).mp hx).trans hy)
    · exact .inr ⟨not_exists.mp hexact, hx⟩
  · rintro (heq | ⟨-, hx⟩)
    · exact (Binary64.isNearest_iff_of_units_eq heq x).mpr rfl
    · exact hx

theorem same_comm (a b : Number) : a.same b = b.same a := by
  rw [Bool.eq_iff_iff]
  cases a with
  | integer m hm =>
    cases b with
    | integer n hn =>
      rw [same_integers, same_integers]
      exact eq_comm
    | double x => rw [same_integer_double, same_double_integer]
  | double x =>
    cases b with
    | integer n hn => rw [same_integer_double, same_double_integer]
    | double y =>
      rw [same_doubles, same_doubles]
      exact eq_comm

theorem same_iff (a b : Number) :
    a.same b = true ↔ a.units = b.units ∨ a.Blurs b ∨ b.Blurs a := by
  cases a with
  | integer m hm =>
    cases b with
    | integer n hn =>
      rw [same_integers, ← units_integer_inj hm hn]
      simp only [Blurs, or_false]
    | double x =>
      rw [same_integer_double, isNearest_iff, units_integer, units_double, eq_comm (a := x.units)]
      simp only [Blurs, or_false]
  | double x =>
    cases b with
    | integer n hn =>
      rw [same_double_integer, isNearest_iff, units_integer, units_double]
      simp only [Blurs, false_or]
    | double y => simp [Blurs]

/-- Numbers that are the same without having one value are a long integer and a double. -/
theorem Blurs.units_ne {a b : Number} (h : a.Blurs b) : a.units ≠ b.units := by
  cases a with
  | double x => cases h
  | integer n fits =>
    cases b with
    | integer m hm => cases h
    | double x => exact fun heq => h.1 x heq.symm

theorem Blurs.long {n : Int} {fits : FitsWord n} {b : Number} (h : (integer n fits).Blurs b) :
    2 ^ 53 < n.natAbs := by
  cases b with
  | integer m hm => cases h
  | double x =>
    by_contra hshort
    obtain ⟨y, hy⟩ := Binary64.exists_units_eq (Nat.le_of_not_lt hshort)
    exact h.1 y hy

theorem Blurs.isInteger_left {a b : Number} (h : a.Blurs b) : a.isInteger = true := by
  cases a with
  | integer n fits => rfl
  | double x => cases h

theorem Blurs.isInteger_right {a b : Number} (h : a.Blurs b) : b.isInteger = false := by
  cases b with
  | integer n fits => cases a <;> cases h
  | double x => rfl

/-- Being the same goes over from one pair to the next, except through a double that stands for an
integer of another value. -/
theorem same_trans {a b c : Number} (hab : a.same b = true) (hbc : b.same c = true)
    (ha : ¬ a.Blurs b) (hc : ¬ c.Blurs b) : a.same c = true := by
  cases b with
  | double x =>
    have hvalue {d : Number} (hsame : d.same (double x) = true) (hd : ¬ d.Blurs (double x)) :
        d.units = x.units := by
      rcases (same_iff d (double x)).mp hsame with heq | hblurs | hblurs
      · exact heq
      · exact absurd hblurs hd
      · cases hblurs
    have heq := hvalue hab ha
    rw [same_comm] at hbc
    exact (same_iff a c).mpr (.inl (heq.trans (hvalue hbc hc).symm))
  | integer n fits =>
    cases a with
    | integer m hm =>
      obtain rfl := same_integers.mp hab
      exact hbc
    | double y =>
      rw [same_double_integer] at hab
      cases c with
      | integer k hk =>
        obtain rfl := same_integers.mp hbc
        exact same_double_integer.mpr hab
      | double z =>
        rw [same_integer_double] at hbc
        obtain ⟨x, -, hnearest⟩ := Binary64.exists_ofInt (log2_le_of_fits fits)
        exact same_doubles.mpr (((hnearest y).mp hab).trans ((hnearest z).mp hbc).symm)

end Json.Number

namespace Claim

theorem contains_number_number_iff {a b : Number} :
    Contains (.number a) (.number b) ↔ a.same b = true := by
  rw [contains_number_iff]
  constructor
  · rintro ⟨want, heq, hsame⟩
    cases heq
    exact hsame
  · exact fun hsame => ⟨a, rfl, hsame⟩

/-- How a required number `a` and a received number `b` compare. -/
structure NumbersCompared (a b : Number) : Prop where
  /-- The received number meets the requirement if both have one value, and besides only if one of
  them is an integer without a double and the other the double that it is rounded to. -/
  decided : Contains (.number a) (.number b) ↔ a.units = b.units ∨ a.Blurs b ∨ b.Blurs a
  /-- In the second case their values differ. -/
  blurred : a.Blurs b ∨ b.Blurs a → a.units ≠ b.units
  /-- It does not arise with integers up to `2 ^ 53`. -/
  short : ∀ n fits, n.natAbs ≤ 2 ^ 53 → a = .integer n fits ∨ b = .integer n fits →
    (Contains (.number a) (.number b) ↔ a.units = b.units)
  /-- Nor with two integers, or two doubles. -/
  alike : a.isInteger = b.isInteger → (Contains (.number a) (.number b) ↔ a.units = b.units)
  symm : Contains (.number a) (.number b) → Contains (.number b) (.number a)
  trans : ∀ c, Contains (.number a) (.number b) → Contains (.number b) (.number c) →
    ¬ a.Blurs b → ¬ c.Blurs b → Contains (.number a) (.number c)

/-- Numbers are compared by value except for long integers and the doubles next to them. -/
theorem numbers_compared (a b : Number) : NumbersCompared a b := by
  have hdecided : Contains (.number a) (.number b) ↔
      a.units = b.units ∨ a.Blurs b ∨ b.Blurs a :=
    contains_number_number_iff.trans (Number.same_iff a b)
  have hexact (ha : ¬ a.Blurs b) (hb : ¬ b.Blurs a) :
      Contains (.number a) (.number b) ↔ a.units = b.units := by
    rw [hdecided]
    simp only [ha, hb, or_false]
  refine { decided := hdecided, blurred := ?_, short := ?_, alike := ?_, symm := ?_, trans := ?_ }
  · rintro (hblurs | hblurs)
    · exact hblurs.units_ne
    · exact hblurs.units_ne.symm
  · intro n fits hshort hinteger
    rcases hinteger with rfl | rfl
    · exact hexact (fun h => absurd h.long (by omega)) fun h => nomatch h.isInteger_right
    · exact hexact (fun h => nomatch h.isInteger_right) fun h => absurd h.long (by omega)
  · intro hsame
    refine hexact (fun h => ?_) fun h => ?_
    · rw [h.isInteger_left, h.isInteger_right] at hsame
      cases hsame
    · rw [h.isInteger_left, h.isInteger_right] at hsame
      cases hsame
  · intro h
    rw [contains_number_number_iff, Number.same_comm]
    exact contains_number_number_iff.mp h
  · intro c hab hbc ha hc
    rw [contains_number_number_iff] at hab hbc ⊢
    exact Number.same_trans hab hbc ha hc

/-- `2 ^ 53 + 1`, which lies half way between two doubles. -/
def halfway : Number := .integer 9007199254740993 (by decide)

/-- `2 ^ 53`, as a double and as an integer. -/
def evenBelow : Number := .double ⟨false, 2 ^ 52, 1, by decide⟩

def below : Number := .integer 9007199254740992 (by decide)

/-- An integer is met by a number of another value, in either direction, and being met by a number
is no equivalence: there are two integers that are not the same, and a double that meets both. -/
theorem number_met_by_another :
    Contains (.number halfway) (.number evenBelow) ∧
      Contains (.number evenBelow) (.number halfway) ∧
      halfway.units ≠ evenBelow.units ∧ Contains (.number evenBelow) (.number below) ∧
        ¬ Contains (.number halfway) (.number below) := by
  simp only [contains_number_number_iff]
  decide +kernel

/-- No double is `2 ^ 53 + 1`. -/
theorem numbers_compared_halfway :
    NumbersCompared halfway evenBelow ∧ halfway.Blurs evenBelow := by
  have hcompared := numbers_compared halfway evenBelow
  refine ⟨hcompared, ?_⟩
  have hmet : Contains (.number halfway) (.number evenBelow) :=
    contains_number_number_iff.mpr (by decide +kernel)
  have hvalues : halfway.units ≠ evenBelow.units := by decide +kernel
  rcases hcompared.decided.mp hmet with heq | hblurs | hblurs
  · exact absurd heq hvalues
  · exact hblurs
  · cases hblurs

end Claim
end BearerAuth
