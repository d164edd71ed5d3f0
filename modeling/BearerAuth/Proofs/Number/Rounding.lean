import BearerAuth.Json.Value
import Mathlib.Tactic.Common

/-!
# Rounding integers to doubles

What it means that a double is nearest to a value, apart from how it is found: none is nearer,
and of two that are equally near it is the one with the even significand. The conversion of
integers finds this double, and up to the sign of zero there is no other.
-/
namespace BearerAuth.Binary64

/-- How far a double is from a value, in units. -/
def distance (x : Binary64) (value : Int) : Nat := (x.units - value).natAbs

/-- The double nearest to a value; a tie goes to the even significand. -/
structure IsNearest (x : Binary64) (value : Int) : Prop where
  nearest : ∀ y : Binary64, x.distance value ≤ y.distance value
  even : ∀ y : Binary64, y.distance value = x.distance value →
    x.significand % 2 ≤ y.significand % 2

/-- The exponent counted from the least one. -/
def place (x : Binary64) : Nat := (x.exponent + 1074).toNat

theorem units_of_nonneg {x : Binary64} (h : x.negative = false) :
    x.units = (x.significand * 2 ^ x.place : Nat) := by
  simp [units, place, h]

theorem units_of_negative {x : Binary64} (h : x.negative = true) :
    x.units = -(x.significand * 2 ^ x.place : Nat) := by
  simp [units, place, h]

theorem natAbs_units (x : Binary64) : x.units.natAbs = x.significand * 2 ^ x.place := by
  cases h : x.negative with
  | false => rw [units_of_nonneg h, Int.natAbs_natCast]
  | true => rw [units_of_negative h, Int.natAbs_neg, Int.natAbs_natCast]

theorem significand_lt (x : Binary64) : x.significand < 2 ^ 53 := x.canonical.1

theorem normal_of_place_pos {x : Binary64} (h : 0 < x.place) : 2 ^ 52 ≤ x.significand := by
  obtain ⟨-, -, -, hnormal | hleast⟩ := x.canonical
  · exact hnormal
  · simp [place, hleast] at h

section Significands

variable {s t a b : Nat}

/-- Of two equal products, the one with the smaller power has the greater factor. -/
theorem eq_mul_pow_sub (h : s * 2 ^ a = t * 2 ^ b) (hab : a ≤ b) : s = t * 2 ^ (b - a) := by
  have hpow : 2 ^ b = 2 ^ (b - a) * 2 ^ a := by
    rw [← Nat.pow_add]
    congr 1
    omega
  rw [hpow, ← Nat.mul_assoc] at h
  exact Nat.eq_of_mul_eq_mul_right (Nat.two_pow_pos a) h

theorem two_mul_le_of_eq (h : s * 2 ^ a = t * 2 ^ b) (hab : a < b) : 2 * t ≤ s := by
  have hpow : 2 ^ 1 ≤ 2 ^ (b - a) := Nat.pow_le_pow_right (by decide) (by omega)
  calc 2 * t = t * 2 ^ 1 := by omega
    _ ≤ t * 2 ^ (b - a) := Nat.mul_le_mul_left t hpow
    _ = s := (eq_mul_pow_sub h (Nat.le_of_lt hab)).symm

end Significands

/-- A value other than zero has one significand, and zero has that of zero. -/
theorem significand_eq_of_units_eq {x y : Binary64} (h : x.units = y.units) :
    x.significand = y.significand := by
  have heq : x.significand * 2 ^ x.place = y.significand * 2 ^ y.place := by
    rw [← natAbs_units, ← natAbs_units, h]
  have hx := x.significand_lt
  have hy := y.significand_lt
  rcases Nat.lt_trichotomy x.place y.place with hlt | hsame | hgt
  · have hnormal := normal_of_place_pos (Nat.lt_of_le_of_lt (Nat.zero_le _) hlt)
    have := two_mul_le_of_eq heq hlt
    omega
  · rw [hsame] at heq
    exact Nat.eq_of_mul_eq_mul_right (Nat.two_pow_pos _) heq
  · have hnormal := normal_of_place_pos (Nat.lt_of_le_of_lt (Nat.zero_le _) hgt)
    have := two_mul_le_of_eq heq.symm hgt
    omega

/-- The significand of a multiple of a power of two, as far as its last bit. At the upper end the
significand is half the factor, and both are even. -/
theorem significand_parity {y : Binary64} {k j : Nat} (h : y.units.natAbs = k * 2 ^ j)
    (hlo : 2 ^ 52 ≤ k) (hhi : k ≤ 2 ^ 53) : y.significand % 2 = k % 2 := by
  rw [natAbs_units] at h
  have hy := y.significand_lt
  rcases Nat.lt_trichotomy y.place j with hlt | hsame | hgt
  · have := two_mul_le_of_eq h hlt
    omega
  · rw [hsame] at h
    rw [Nat.eq_of_mul_eq_mul_right (Nat.two_pow_pos j) h]
  · have hnormal := normal_of_place_pos (Nat.lt_of_le_of_lt (Nat.zero_le _) hgt)
    have := two_mul_le_of_eq h.symm hgt
    omega

/-- Between two neighbouring multiples of a power of two there is no double, if their factors
have as many digits as a significand. -/
theorem units_le_or_le (y : Binary64) {m j : Nat} (hm : 2 ^ 52 ≤ m) :
    y.units ≤ (m * 2 ^ j : Nat) ∨ ((m + 1) * 2 ^ j : Nat) ≤ y.units := by
  cases hsign : y.negative with
  | true =>
    left
    rw [units_of_negative hsign]
    exact Int.le_trans (Int.neg_nonpos_of_nonneg (Int.natCast_nonneg _)) (Int.natCast_nonneg _)
  | false =>
    rw [units_of_nonneg hsign]
    simp only [Int.ofNat_le]
    have hy := y.significand_lt
    by_cases hplace : y.place < j
    · left
      calc y.significand * 2 ^ y.place ≤ (2 * m) * 2 ^ y.place :=
            Nat.mul_le_mul_right _ (by omega)
        _ = m * 2 ^ (y.place + 1) := by rw [Nat.pow_succ]; ac_rfl
        _ ≤ m * 2 ^ j := Nat.mul_le_mul_left m (Nat.pow_le_pow_right (by decide) hplace)
    · have hmultiple : y.significand * 2 ^ y.place =
          y.significand * 2 ^ (y.place - j) * 2 ^ j := by
        rw [Nat.mul_assoc, ← Nat.pow_add]
        congr 2
        omega
      rw [hmultiple]
      rcases Nat.lt_or_ge m (y.significand * 2 ^ (y.place - j)) with hlt | hle
      · exact .inr (Nat.mul_le_mul_right _ hlt)
      · exact .inl (Nat.mul_le_mul_right _ hle)

/-! ## Uniqueness -/

theorem isNearest_congr {x y : Binary64} {value : Int} (h : x.units = y.units) :
    x.IsNearest value ↔ y.IsNearest value := by
  have hdistance : x.distance value = y.distance value := by rw [distance, distance, h]
  have hsignificand := significand_eq_of_units_eq h
  constructor
  · intro hx
    exact ⟨by simpa only [hdistance] using hx.nearest,
      by simpa only [hdistance, hsignificand] using hx.even⟩
  · intro hy
    exact ⟨by simpa only [hdistance] using hy.nearest,
      by simpa only [hdistance, hsignificand] using hy.even⟩

/-- A double that has the value is the nearest one, and no other value is. -/
theorem isNearest_iff_of_units_eq {x : Binary64} {value : Int} (h : x.units = value)
    (y : Binary64) : y.IsNearest value ↔ y.units = x.units := by
  have hx : x.distance value = 0 := by
    rw [distance, h, Int.sub_self]
    rfl
  have hzero {z : Binary64} (hz : z.distance value = 0) : z.units = x.units := by
    rw [distance, Int.natAbs_eq_zero] at hz
    omega
  constructor
  · intro hy
    exact hzero (Nat.le_zero.mp (hx ▸ hy.nearest x))
  · intro heq
    refine (isNearest_congr heq).mpr ⟨fun z => hx ▸ Nat.zero_le _, fun z hz => ?_⟩
    rw [hx] at hz
    exact Nat.le_of_eq (congrArg (· % 2) (significand_eq_of_units_eq (hzero hz)).symm)

/-- Where a value lies between two neighbouring doubles, and which of them it is rounded to. -/
structure Rounds (x : Binary64) (m j value : Nat) : Prop where
  lo : m * 2 ^ j ≤ value
  hi : value ≤ (m + 1) * 2 ^ j
  normal : 2 ^ 52 ≤ m
  digits : m < 2 ^ 53
  chosen : x.units = (m * 2 ^ j : Nat) ∧ value - m * 2 ^ j ≤ (m + 1) * 2 ^ j - value ∧
      (value - m * 2 ^ j = (m + 1) * 2 ^ j - value → m % 2 = 0) ∨
    x.units = ((m + 1) * 2 ^ j : Nat) ∧ (m + 1) * 2 ^ j - value ≤ value - m * 2 ^ j ∧
      (value - m * 2 ^ j = (m + 1) * 2 ^ j - value → (m + 1) % 2 = 0)

theorem Rounds.isNearest_iff {x : Binary64} {m j value : Nat} (h : x.Rounds m j value)
    (y : Binary64) : y.IsNearest value ↔ y.units = x.units := by
  obtain ⟨hlo, hhi, hnormal, hdigits, hchosen⟩ := h
  have hstep : m * 2 ^ j < (m + 1) * 2 ^ j :=
    Nat.mul_lt_mul_of_pos_right (Nat.lt_succ_self m) (Nat.two_pow_pos j)
  have hlow {z : Binary64} (hz : z.units = (m * 2 ^ j : Nat)) : z.significand % 2 = m % 2 :=
    significand_parity (by rw [hz, Int.natAbs_natCast]) hnormal (by omega)
  have hhigh {z : Binary64} (hz : z.units = ((m + 1) * 2 ^ j : Nat)) :
      z.significand % 2 = (m + 1) % 2 :=
    significand_parity (by rw [hz, Int.natAbs_natCast]) (by omega) hdigits
  have hends (z : Binary64) := z.units_le_or_le (j := j) hnormal
  generalize m * 2 ^ j = low at *
  generalize (m + 1) * 2 ^ j = high at *
  -- A double as near as `x` lies at one of the two ends; at the other end only in a tie, and then
  -- the significand of `x` is the even one.
  have hnear (z : Binary64) : x.distance value ≤ z.distance value := by
    have := hends z
    unfold distance
    omega
  have hother {z : Binary64} (hz : z.distance value = x.distance value)
      (hne : z.units ≠ x.units) : x.significand % 2 = 0 ∧ z.significand % 2 = 1 := by
    have := hends z
    unfold distance at hz
    obtain ⟨hx, hnearer, heven⟩ | ⟨hx, hnearer, heven⟩ := hchosen
    · have hz : z.units = (high : Nat) := by omega
      have := hlow hx
      have := hhigh hz
      omega
    · have hz : z.units = (low : Nat) := by omega
      have := hhigh hx
      have := hlow hz
      omega
  constructor
  · intro hy
    by_contra hne
    have hsame : y.distance value = x.distance value := Nat.le_antisymm (hy.nearest x) (hnear y)
    have := hother hsame hne
    have := hy.even x hsame.symm
    omega
  · intro heq
    refine (isNearest_congr heq).mpr ⟨hnear, fun z hz => ?_⟩
    by_cases hsame : z.units = x.units
    · exact Nat.le_of_eq (congrArg (· % 2) (significand_eq_of_units_eq hsame).symm)
    · have := hother hz hsame
      omega

/-! ## Conversion -/

theorem unitsPerOne_pos : 0 < unitsPerOne := by
  unfold unitsPerOne
  -- Stated for every exponent, so that nothing computes this power.
  generalize 1074 = k
  exact Nat.two_pow_pos k

theorem nearestEven_one (num : Nat) : nearestEven num 1 = num := by
  simp [nearestEven, Nat.mod_one]

/-- The quotient is rounded down or up, to the nearer side and in a tie to the even one. -/
theorem nearestEven_cases (num den : Nat) :
    nearestEven num den = num / den ∧ 2 * (num % den) ≤ den ∧
        (2 * (num % den) = den → num / den % 2 = 0) ∨
      nearestEven num den = num / den + 1 ∧ den ≤ 2 * (num % den) ∧
        (2 * (num % den) = den → (num / den + 1) % 2 = 0) := by
  unfold nearestEven
  dsimp only
  split
  · right
    omega
  · left
    omega

/-- The factor may be `2 ^ 53`, which is written with half the significand. -/
theorem exists_ofParts {m j : Nat} (hlo : 2 ^ 52 ≤ m) (hhi : m ≤ 2 ^ 53) (hj : j ≤ 2044) :
    ∃ x, ofParts? false m ((j : Int) - 1074) = some x ∧ x.units = (m * 2 ^ j : Nat) := by
  by_cases htop : m = 2 ^ 53
  · subst htop
    have hcanonical : Canonical (2 ^ 52) ((j : Int) - 1074 + 1) :=
      ⟨by decide, by omega, by omega, .inl (Nat.le_refl _)⟩
    refine ⟨⟨false, 2 ^ 52, (j : Int) - 1074 + 1, hcanonical⟩, ?_, ?_⟩
    · unfold ofParts?
      simp only [if_true, dif_pos hcanonical]
    · have hplace : ((j : Int) - 1074 + 1 + 1074).toNat = j + 1 := by omega
      have hpow : 2 ^ 52 * 2 ^ (j + 1) = 2 ^ 53 * 2 ^ j := by
        rw [Nat.pow_succ]
        omega
      rw [units_of_nonneg rfl, place, hplace]
      exact congrArg Nat.cast hpow
  · have hcanonical : Canonical m ((j : Int) - 1074) :=
      ⟨by omega, by omega, by omega, .inl hlo⟩
    refine ⟨⟨false, m, (j : Int) - 1074, hcanonical⟩, ?_, ?_⟩
    · unfold ofParts?
      simp only [if_neg htop, dif_pos hcanonical]
    · have hplace : ((j : Int) - 1074 + 1074).toNat = j := by omega
      rw [units_of_nonneg rfl, place, hplace]

theorem floorLog_one {num : Nat} (h : num ≠ 0) : floorLog num 1 = num.log2 := by
  have hlog : (1 : Nat).log2 = 0 := by decide
  have hle := Nat.log2_self_le h
  unfold floorLog
  rw [hlog]
  simp only [Int.natCast_zero, Int.sub_zero, Int.toNat_natCast, Nat.one_mul]
  rw [if_neg]
  have hzero : (-(num.log2 : Int)).toNat = 0 := by omega
  rw [hzero, Nat.pow_zero, Nat.mul_one]
  omega

theorem ofRatio?_one {num : Nat} (h : num ≠ 0) :
    ofRatio? false num 1 =
      ofParts? false (nearestEven (num * 2 ^ (52 - num.log2)) (2 ^ (num.log2 - 52)))
        (((num.log2 + 1022 : Nat) : Int) - 1074) := by
  have hexp : max (floorLog num 1 - 52) (-1074) = ((num.log2 + 1022 : Nat) : Int) - 1074 := by
    rw [floorLog_one h]
    omega
  have hdown : (-(((num.log2 + 1022 : Nat) : Int) - 1074)).toNat = 52 - num.log2 := by omega
  have hup : (((num.log2 + 1022 : Nat) : Int) - 1074).toNat = num.log2 - 52 := by omega
  unfold ofRatio?
  rw [if_neg h]
  dsimp only
  rw [hexp, hdown, hup, Nat.one_mul]

/-- With at most fifty-three binary digits an integer is a double. -/
theorem exists_ofRatio_of_short {num : Nat} (h : num ≠ 0) (hlog : num.log2 ≤ 52) :
    ∃ x, ofRatio? false num 1 = some x ∧ x.units = (num * unitsPerOne : Nat) := by
  have hup : num.log2 - 52 = 0 := by omega
  have hlo : 2 ^ 52 ≤ num * 2 ^ (52 - num.log2) := by
    calc 2 ^ 52 = 2 ^ num.log2 * 2 ^ (52 - num.log2) := by
          rw [← Nat.pow_add]
          congr 1
          omega
      _ ≤ num * 2 ^ (52 - num.log2) := Nat.mul_le_mul_right _ (Nat.log2_self_le h)
  have hhi : num * 2 ^ (52 - num.log2) ≤ 2 ^ 53 := by
    calc num * 2 ^ (52 - num.log2) ≤ 2 ^ (num.log2 + 1) * 2 ^ (52 - num.log2) :=
          Nat.mul_le_mul_right _ (Nat.le_of_lt Nat.lt_log2_self)
      _ = 2 ^ 53 := by
          rw [← Nat.pow_add]
          congr 1
          omega
  obtain ⟨x, hx, hunits⟩ := exists_ofParts hlo hhi (j := num.log2 + 1022) (by omega)
  refine ⟨x, ?_, ?_⟩
  · rw [ofRatio?_one h, hup, Nat.pow_zero, nearestEven_one, hx]
  · have hplace : 52 - num.log2 + (num.log2 + 1022) = 1074 := by omega
    rw [hunits, Nat.mul_assoc, ← Nat.pow_add, hplace, unitsPerOne]

/-- A longer integer is rounded to fifty-three digits. -/
theorem exists_rounds_of_long {num : Nat} (h : num ≠ 0) (hlog : 52 < num.log2)
    (hbound : num.log2 ≤ 1022) :
    ∃ x, ofRatio? false num 1 = some x ∧
      x.Rounds (num / 2 ^ (num.log2 - 52)) (num.log2 - 52 + 1074) (num * unitsPerOne) := by
  have hdown : 52 - num.log2 = 0 := by omega
  have hlo : 2 ^ 52 ≤ num / 2 ^ (num.log2 - 52) := by
    rw [Nat.le_div_iff_mul_le (Nat.two_pow_pos _), ← Nat.pow_add]
    refine Nat.le_trans (Nat.pow_le_pow_right (by decide) ?_) (Nat.log2_self_le h)
    omega
  have hhi : num / 2 ^ (num.log2 - 52) < 2 ^ 53 := by
    rw [Nat.div_lt_iff_lt_mul (Nat.two_pow_pos _), ← Nat.pow_add]
    refine Nat.lt_of_lt_of_le Nat.lt_log2_self (Nat.pow_le_pow_right (by decide) ?_)
    omega
  have hsplit := Nat.div_add_mod' num (2 ^ (num.log2 - 52))
  have hrest := Nat.mod_lt num (Nat.two_pow_pos (num.log2 - 52))
  have hcases := nearestEven_cases num (2 ^ (num.log2 - 52))
  have hnearest : nearestEven num (2 ^ (num.log2 - 52)) ≤ 2 ^ 53 := by omega
  obtain ⟨x, hx, hunits⟩ := exists_ofParts (j := num.log2 + 1022) (m := nearestEven num _)
    (by omega) hnearest (by omega)
  have hplace : num.log2 + 1022 = num.log2 - 52 + 1074 := by omega
  refine ⟨x, by rw [ofRatio?_one h, hdown, Nat.pow_zero, Nat.mul_one, hx], ?_⟩
  rw [hplace] at hunits
  generalize num.log2 - 52 = k at *
  generalize num / 2 ^ k = quotient at *
  generalize num % 2 ^ k = rest at *
  have hscale (c : Nat) : c * 2 ^ (k + 1074) = c * 2 ^ k * unitsPerOne := by
    rw [unitsPerOne, Nat.pow_add, Nat.mul_assoc]
  have hnext : (quotient + 1) * 2 ^ k = quotient * 2 ^ k + 2 ^ k := Nat.succ_mul _ _
  have hbelow : num * unitsPerOne - quotient * 2 ^ (k + 1074) = rest * unitsPerOne := by
    have hgap : num - quotient * 2 ^ k = rest := by omega
    rw [hscale, ← Nat.sub_mul, hgap]
  have habove : (quotient + 1) * 2 ^ (k + 1074) - num * unitsPerOne =
      (2 ^ k - rest) * unitsPerOne := by
    have hgap : (quotient + 1) * 2 ^ k - num = 2 ^ k - rest := by omega
    rw [hscale, ← Nat.sub_mul, hgap]
  have htie (heq : rest * unitsPerOne = (2 ^ k - rest) * unitsPerOne) : 2 * rest = 2 ^ k := by
    have := Nat.eq_of_mul_eq_mul_right unitsPerOne_pos heq
    omega
  refine ⟨?_, ?_, hlo, hhi, ?_⟩
  · rw [hscale]
    exact Nat.mul_le_mul_right _ (by omega)
  · rw [hscale]
    exact Nat.mul_le_mul_right _ (by omega)
  · rw [hbelow, habove]
    obtain ⟨hdigits, hle, heven⟩ | ⟨hdigits, hle, heven⟩ := hcases
    · rw [hdigits] at hunits
      exact .inl ⟨hunits, Nat.mul_le_mul_right _ (by omega), fun heq => heven (htie heq)⟩
    · rw [hdigits] at hunits
      exact .inr ⟨hunits, Nat.mul_le_mul_right _ (by omega), fun heq => heven (htie heq)⟩

theorem exists_ofRatio {num : Nat} (hbound : num.log2 ≤ 1022) :
    ∃ x, ofRatio? false num 1 = some x ∧
      ∀ y : Binary64, y.IsNearest (num * unitsPerOne : Nat) ↔ y.units = x.units := by
  by_cases hzero : num = 0
  · subst hzero
    have hcanonical : Canonical 0 (-1074) := by decide
    refine ⟨⟨false, 0, -1074, hcanonical⟩, rfl, isNearest_iff_of_units_eq ?_⟩
    rw [units_of_nonneg rfl, Nat.zero_mul, Nat.zero_mul]
  · rcases Nat.lt_or_ge 52 num.log2 with hlong | hshort
    · obtain ⟨x, hx, hrounds⟩ := exists_rounds_of_long hzero hlong hbound
      exact ⟨x, hx, hrounds.isNearest_iff⟩
    · obtain ⟨x, hx, hunits⟩ := exists_ofRatio_of_short hzero hshort
      exact ⟨x, hx, isNearest_iff_of_units_eq hunits⟩

/-- The double of the opposite sign. -/
def neg (x : Binary64) : Binary64 := { x with negative := !x.negative }

@[simp] theorem neg_neg (x : Binary64) : x.neg.neg = x := by simp [neg]

@[simp] theorem units_neg (x : Binary64) : x.neg.units = -x.units := by
  cases h : x.negative with
  | false => rw [units_of_nonneg h, units_of_negative (by simp [neg, h])]; rfl
  | true => rw [units_of_negative h, units_of_nonneg (by simp [neg, h]), Int.neg_neg]; rfl

@[simp] theorem distance_neg (x : Binary64) (value : Int) :
    x.neg.distance (-value) = x.distance value := by
  rw [distance, distance, units_neg]
  omega

theorem IsNearest.neg {x : Binary64} {value : Int} (h : x.IsNearest value) :
    x.neg.IsNearest (-value) where
  nearest y := by
    rw [← y.neg_neg, distance_neg, distance_neg]
    exact h.nearest y.neg
  even y hy := by
    rw [← y.neg_neg, distance_neg, distance_neg] at hy
    exact h.even y.neg hy

theorem isNearest_neg_iff {x : Binary64} {value : Int} :
    x.IsNearest (-value) ↔ x.neg.IsNearest value := by
  constructor
  · intro h
    simpa using h.neg
  · intro h
    simpa using h.neg

theorem ofRatio?_true (num den : Nat) :
    ofRatio? true num den = (ofRatio? false num den).map neg := by
  have hparts (m : Nat) (e : Int) : ofParts? true m e = (ofParts? false m e).map neg := by
    unfold ofParts?
    dsimp only
    generalize (if m = 2 ^ 53 then (2 ^ 52, e + 1) else (m, e)) = parts
    by_cases h : Canonical parts.1 parts.2
    · rw [dif_pos h, dif_pos h, Option.map_some]
      rfl
    · rw [dif_neg h, dif_neg h, Option.map_none]
  unfold ofRatio?
  split
  · exact hparts 0 (-1074)
  · exact hparts _ _

/-- Every integer that is not too large has a nearest double: the one that it is converted to. -/
theorem exists_ofInt {n : Int} (h : n.natAbs.log2 ≤ 1022) :
    ∃ x, ofInt? n = some x ∧
      ∀ y : Binary64, y.IsNearest (n * unitsPerOne) ↔ y.units = x.units := by
  obtain ⟨x, hx, hnearest⟩ := exists_ofRatio h
  unfold ofInt?
  by_cases hsign : n < 0
  · have hn : n * unitsPerOne = -(n.natAbs * unitsPerOne : Nat) := by
      rw [Int.natCast_mul, ← Int.neg_mul]
      congr 1
      omega
    refine ⟨x.neg, by rw [decide_eq_true hsign, ofRatio?_true, hx, Option.map_some], fun y => ?_⟩
    rw [hn, isNearest_neg_iff, hnearest, units_neg, units_neg]
    omega
  · have hn : n * unitsPerOne = (n.natAbs * unitsPerOne : Nat) := by
      rw [Int.natCast_mul]
      congr 1
      omega
    exact ⟨x, by rw [decide_eq_false hsign, hx], fun y => by rw [hn, hnearest]⟩

/-- Integers up to `2 ^ 53` are doubles. -/
theorem exists_units_eq {n : Int} (h : n.natAbs ≤ 2 ^ 53) :
    ∃ x : Binary64, x.units = n * unitsPerOne := by
  have hmagnitude : ∃ x : Binary64, x.units = (n.natAbs * unitsPerOne : Nat) := by
    by_cases hzero : n.natAbs = 0
    · refine ⟨⟨false, 0, -1074, by decide⟩, ?_⟩
      rw [hzero, units_of_nonneg rfl, Nat.zero_mul, Nat.zero_mul]
    · by_cases htop : n.natAbs = 2 ^ 53
      · obtain ⟨x, -, hx⟩ := exists_ofParts (j := 1074) (m := 2 ^ 53) (by decide) (Nat.le_refl _)
          (by decide)
        exact ⟨x, by rw [hx, htop, unitsPerOne]⟩
      · have hlt : n.natAbs < 2 ^ 53 := by omega
        have hlog := (Nat.log2_lt hzero).mpr hlt
        obtain ⟨x, -, hx⟩ := exists_ofRatio_of_short hzero (by omega)
        exact ⟨x, hx⟩
  obtain ⟨x, hx⟩ := hmagnitude
  rw [Int.natCast_mul] at hx
  rcases Int.natAbs_eq n with hsign | hsign
  · exact ⟨x, by rw [hx, ← hsign]⟩
  · exact ⟨x.neg, by rw [units_neg, hx, ← Int.neg_mul, ← hsign]⟩

end BearerAuth.Binary64
