import BearerAuth.Proofs.Number.Rounding
import Mathlib.Algebra.Order.Field.Power
import Mathlib.Algebra.Order.Floor.Semifield
import Mathlib.Data.Rat.Floor
import Mathlib.Tactic.FieldSimp
import Mathlib.Tactic.Linarith

/-!
# Rounding quotients to doubles

A quotient is rounded at the place that its logarithm gives: to a multiple of a power of two, so
that fifty-three digits are left. No double is nearer, and so rounding keeps the order of numbers
and moves none by more than half a unit in the last place.
-/
namespace BearerAuth.Binary64

/-- The exact value. -/
def value (x : Binary64) : ℚ := x.units / unitsPerOne

theorem unitsPerOne_eq_zpow : (unitsPerOne : ℚ) = 2 ^ (1074 : ℤ) := by
  obtain ⟨k, hunits, hk⟩ : ∃ k : ℕ, unitsPerOne = 2 ^ k ∧ (k : ℤ) = 1074 :=
    ⟨_, rfl, rfl⟩
  rw [hunits, ← hk, zpow_natCast, Nat.cast_pow, Nat.cast_two]

theorem unitsPerOne_cast_pos : (0 : ℚ) < unitsPerOne := by
  exact_mod_cast unitsPerOne_pos

/-- A power with any exponent as a quotient of two powers. -/
theorem two_zpow_eq_div (e : ℤ) : (2 : ℚ) ^ e = 2 ^ e.toNat / 2 ^ (-e).toNat := by
  have hdiff : e = (e.toNat : ℤ) - ((-e).toNat : ℤ) := by omega
  calc (2 : ℚ) ^ e = 2 ^ ((e.toNat : ℤ) - ((-e).toNat : ℤ)) := by rw [← hdiff]
    _ = 2 ^ e.toNat / 2 ^ (-e).toNat := by
      rw [zpow_sub₀ (by norm_num), zpow_natCast, zpow_natCast]

/-- Multiples of a power of two as a number of units. -/
theorem mul_zpow_eq_div (m j : ℕ) :
    (m : ℚ) * 2 ^ ((j : ℤ) - 1074) = ((m * 2 ^ j : ℕ) : ℤ) / unitsPerOne := by
  rw [unitsPerOne_eq_zpow, zpow_sub₀ two_ne_zero, zpow_natCast, mul_div_assoc',
    Int.cast_natCast, Nat.cast_mul, Nat.cast_pow, Nat.cast_two]

theorem value_of_units {x : Binary64} {m j : ℕ} (h : x.units = (m * 2 ^ j : ℕ)) :
    x.value = m * 2 ^ ((j : ℤ) - 1074) := by
  rw [value, h, mul_zpow_eq_div]

/-- The logarithms of two numbers leave that of their quotient open by one. -/
theorem quotient_bounds {num den : ℕ} (hnum : num ≠ 0) (hden : den ≠ 0) :
    (2 : ℚ) ^ ((num.log2 : ℤ) - den.log2 - 1) ≤ num / den ∧
      (num / den : ℚ) < 2 ^ ((num.log2 : ℤ) - den.log2 + 1) := by
  have hdenpos : (0 : ℚ) < den := by positivity
  have hnumlo : (2 : ℚ) ^ (num.log2 : ℤ) ≤ num := by exact_mod_cast Nat.log2_self_le hnum
  have hnumhi : (num : ℚ) < 2 ^ ((num.log2 : ℤ) + 1) := by exact_mod_cast Nat.lt_log2_self
  have hdenlo : (2 : ℚ) ^ (den.log2 : ℤ) ≤ den := by exact_mod_cast Nat.log2_self_le hden
  have hdenhi : (den : ℚ) < 2 ^ ((den.log2 : ℤ) + 1) := by exact_mod_cast Nat.lt_log2_self
  have habove : (num / den : ℚ) < 2 ^ ((num.log2 : ℤ) - den.log2 + 1) := by
    have hexp : (2 : ℚ) ^ ((num.log2 : ℤ) - den.log2 + 1) * 2 ^ (den.log2 : ℤ) =
        2 ^ ((num.log2 : ℤ) + 1) := by
      rw [← zpow_add₀ two_ne_zero]
      congr 1
      ring
    rw [div_lt_iff₀ hdenpos]
    calc (num : ℚ) < 2 ^ ((num.log2 : ℤ) + 1) := hnumhi
      _ = 2 ^ ((num.log2 : ℤ) - den.log2 + 1) * 2 ^ (den.log2 : ℤ) := hexp.symm
      _ ≤ 2 ^ ((num.log2 : ℤ) - den.log2 + 1) * den :=
        mul_le_mul_of_nonneg_left hdenlo (by positivity)
  have hbelow : (2 : ℚ) ^ ((num.log2 : ℤ) - den.log2 - 1) ≤ num / den := by
    have hexp : (2 : ℚ) ^ ((num.log2 : ℤ) - den.log2 - 1) * 2 ^ ((den.log2 : ℤ) + 1) =
        2 ^ (num.log2 : ℤ) := by
      rw [← zpow_add₀ two_ne_zero]
      congr 1
      ring
    rw [le_div_iff₀ hdenpos]
    calc (2 : ℚ) ^ ((num.log2 : ℤ) - den.log2 - 1) * den
        ≤ 2 ^ ((num.log2 : ℤ) - den.log2 - 1) * 2 ^ ((den.log2 : ℤ) + 1) :=
          mul_le_mul_of_nonneg_left hdenhi.le (by positivity)
      _ = 2 ^ (num.log2 : ℤ) := hexp
      _ ≤ num := hnumlo
  exact ⟨hbelow, habove⟩

/-- The logarithm is the greatest exponent whose power is not above the quotient. -/
theorem floorLog_spec {num den : ℕ} (hnum : num ≠ 0) (hden : den ≠ 0) :
    (2 : ℚ) ^ floorLog num den ≤ num / den ∧ (num / den : ℚ) < 2 ^ (floorLog num den + 1) := by
  have hdenpos : (0 : ℚ) < den := by positivity
  obtain ⟨hbelow, habove⟩ := quotient_bounds hnum hden
  have hsplit (k : ℤ) : num * 2 ^ (-k).toNat < den * 2 ^ k.toNat ↔ (num / den : ℚ) < 2 ^ k := by
    have hpos : (0 : ℚ) < 2 ^ (-k).toNat := by positivity
    rw [two_zpow_eq_div, div_lt_div_iff₀ hdenpos hpos, mul_comm _ (den : ℚ)]
    exact_mod_cast Iff.rfl
  unfold floorLog
  dsimp only
  split
  · next hlt =>
    refine ⟨hbelow, ?_⟩
    rw [sub_add_cancel]
    exact (hsplit _).mp hlt
  · next hge => exact ⟨not_lt.mp fun h => hge ((hsplit _).mpr h), habove⟩

/-- No double is nearer to the number. -/
def IsClosest (x : Binary64) (r : ℚ) : Prop := ∀ y : Binary64, |x.value - r| ≤ |y.value - r|

theorem value_le_or_le (y : Binary64) {m : ℕ} {e : ℤ} (he : -1074 ≤ e)
    (hm : 2 ^ 52 ≤ m ∨ e = -1074) :
    y.value ≤ m * 2 ^ e ∨ (m + 1 : ℕ) * 2 ^ e ≤ y.value := by
  obtain ⟨j, hj⟩ : ∃ j : ℕ, e = j - 1074 := ⟨(e + 1074).toNat, by omega⟩
  have hunits : y.units ≤ (m * 2 ^ j : ℕ) ∨ ((m + 1) * 2 ^ j : ℕ) ≤ y.units := by
    rcases hm with hm | hm
    · exact y.units_le_or_le hm
    · have hzero : j = 0 := by omega
      rw [hzero, Nat.pow_zero, Nat.mul_one, Nat.mul_one]
      omega
  rw [hj, mul_zpow_eq_div, mul_zpow_eq_div, value, div_le_div_iff_of_pos_right unitsPerOne_cast_pos,
    div_le_div_iff_of_pos_right unitsPerOne_cast_pos, Int.cast_le, Int.cast_le]
  exact hunits

/-- The rounded quotient of two integers, and how far it is from the quotient. -/
theorem nearestEven_spec (num : ℕ) {den : ℕ} (hden : 0 < den) :
    (nearestEven num den = num / den ∧ (num / den : ℚ) - (num / den : ℕ) ≤ 1 / 2) ∨
      (nearestEven num den = num / den + 1 ∧ 1 / 2 ≤ (num / den : ℚ) - (num / den : ℕ)) := by
  have hdenpos : (0 : ℚ) < den := by exact_mod_cast hden
  have hrest : (num / den : ℚ) - (num / den : ℕ) = (num % den : ℕ) / den := by
    rw [div_sub' hdenpos.ne', div_left_inj' hdenpos.ne', sub_eq_iff_eq_add]
    exact_mod_cast (Nat.mod_add_div num den).symm
  rw [hrest, div_le_div_iff₀ hdenpos two_pos, div_le_div_iff₀ two_pos hdenpos]
  obtain ⟨hdown, hle, -⟩ | ⟨hup, hle, -⟩ := nearestEven_cases num den
  · refine .inl ⟨hdown, ?_⟩
    rw [mul_comm, one_mul]
    exact_mod_cast hle
  · refine .inr ⟨hup, ?_⟩
    rw [mul_comm _ (2 : ℚ), one_mul]
    exact_mod_cast hle

theorem add_le_two_mul_of_closer {a b r : ℚ} (hab : a < b) (h : |b - r| ≤ |a - r|) :
    a + b ≤ 2 * r := by
  by_contra hmid
  have hfar : |a - r| < b - r := abs_lt.mpr ⟨by linarith, by linarith⟩
  have := le_abs_self (b - r)
  linarith

theorem le_add_of_closer {a b r : ℚ} (hab : a < b) (h : |a - r| ≤ |b - r|) :
    2 * r ≤ a + b := by
  by_contra hmid
  have hfar : |b - r| < r - a := abs_lt.mpr ⟨by linarith, by linarith⟩
  have := neg_le_abs (a - r)
  linarith

/-- Rounding keeps the order. -/
theorem IsClosest.mono {x y : Binary64} {r s : ℚ} (hx : x.IsClosest r) (hy : y.IsClosest s)
    (h : r < s) : x.value ≤ y.value := by
  by_contra hlt
  have hgt : y.value < x.value := not_le.mp hlt
  have := add_le_two_mul_of_closer hgt (hx y)
  have := le_add_of_closer hgt (hy x)
  linarith

/-- Where a number lies between two neighbouring doubles. -/
structure Between (q : ℕ) (e : ℤ) (r : ℚ) : Prop where
  lo : q * 2 ^ e ≤ r
  hi : r < (q + 1 : ℕ) * 2 ^ e
  least : -1074 ≤ e
  normal : 2 ^ 52 ≤ q ∨ e = -1074

theorem Between.isClosest {q : ℕ} {e : ℤ} {r : ℚ} {x : Binary64} (h : Between q e r)
    (hx : (x.value = q * 2 ^ e ∧ r - q * 2 ^ e ≤ 2 ^ e / 2) ∨
      (x.value = (q + 1 : ℕ) * 2 ^ e ∧ 2 ^ e / 2 ≤ r - q * 2 ^ e)) :
    x.IsClosest r ∧ |x.value - r| ≤ 2 ^ e / 2 := by
  obtain ⟨hlo, hhi, hleast, hnormal⟩ := h
  have hstep : ((q + 1 : ℕ) : ℚ) * 2 ^ e = q * 2 ^ e + 2 ^ e := by
    rw [Nat.cast_add_one, add_mul, one_mul]
  rw [hstep] at hhi hx
  have hpos : (0 : ℚ) < 2 ^ e := by positivity
  have hends (y : Binary64) : y.value ≤ q * 2 ^ e ∨ q * 2 ^ e + 2 ^ e ≤ y.value := by
    rw [← hstep]
    exact y.value_le_or_le hleast hnormal
  -- From here on only the lower end and the distance to the upper one matter.
  generalize (q : ℚ) * 2 ^ e = low at *
  generalize (2 : ℚ) ^ e = step at *
  rcases hx with ⟨hx, hnear⟩ | ⟨hx, hnear⟩
  · have herror : |x.value - r| = r - low := by
      rw [hx, abs_sub_comm, abs_of_nonneg (by linarith)]
    rw [IsClosest, herror]
    refine ⟨fun y => ?_, hnear⟩
    rcases hends y with hy | hy
    · have := neg_le_abs (y.value - r)
      linarith
    · have := le_abs_self (y.value - r)
      linarith
  · have herror : |x.value - r| = low + step - r := by
      rw [hx, abs_of_nonneg (by linarith)]
    rw [IsClosest, herror]
    refine ⟨fun y => ?_, by linarith⟩
    rcases hends y with hy | hy
    · have := neg_le_abs (y.value - r)
      linarith
    · have := le_abs_self (y.value - r)
      linarith

/-- With the least exponent the significand need not be normalised. -/
theorem exists_ofParts_of_least {m : ℕ} (hm : m < 2 ^ 52) :
    ∃ x, ofParts? false m (-1074) = some x ∧ x.units = (m * 2 ^ 0 : ℕ) := by
  have hcanonical : Canonical m (-1074) := ⟨by omega, by omega, by omega, .inr rfl⟩
  refine ⟨⟨false, m, -1074, hcanonical⟩, ?_, units_of_nonneg rfl⟩
  have htop : m ≠ 2 ^ 53 := by omega
  unfold ofParts?
  simp only [if_neg htop, dif_pos hcanonical]

theorem exists_value_ofParts {m : ℕ} {e : ℤ} (hm : m ≤ 2 ^ 53) (hleast : -1074 ≤ e)
    (hgreatest : e ≤ 970) (hnormal : 2 ^ 52 ≤ m ∨ e = -1074) :
    ∃ x, ofParts? false m e = some x ∧ x.value = m * 2 ^ e := by
  by_cases hlo : 2 ^ 52 ≤ m
  · obtain ⟨j, rfl⟩ : ∃ j : ℕ, e = j - 1074 := ⟨(e + 1074).toNat, by omega⟩
    obtain ⟨x, hx, hunits⟩ := exists_ofParts (j := j) hlo hm (by omega)
    exact ⟨x, hx, value_of_units hunits⟩
  · obtain rfl := hnormal.resolve_left hlo
    obtain ⟨x, hx, hunits⟩ := exists_ofParts_of_least (not_le.mp hlo)
    exact ⟨x, hx, by simpa using value_of_units hunits⟩

/-- The place at which a number of a given magnitude is rounded. -/
structure RoundedAt (e : ℤ) (r : ℚ) : Prop where
  least : -1074 ≤ e
  digits : r < 2 ^ (53 + e)
  normal : 2 ^ (52 + e) ≤ r ∨ e = -1074

theorem roundedAt_of_log {l : ℤ} {r : ℚ} (hlo : 2 ^ l ≤ r) (hhi : r < 2 ^ (l + 1)) :
    RoundedAt (max (l - 52) (-1074)) r where
  least := le_max_right _ _
  digits := hhi.trans_le (zpow_le_zpow_right₀ one_le_two (by omega))
  normal := by
    rcases le_total (-1074) (l - 52) with hle | hle
    · left
      rw [max_eq_left hle, add_sub_cancel]
      exact hlo
    · exact .inr (max_eq_right hle)

/-- Rounding at this place changes a number by little. -/
theorem RoundedAt.half_le {e : ℤ} {r : ℚ} (h : RoundedAt e r) :
    2 ^ e / 2 ≤ max (r / 2 ^ 53) (2 ^ (-1075 : ℤ)) := by
  have hhalf (k : ℤ) : (2 : ℚ) ^ k / 2 = 2 ^ (k - 1) := by
    rw [zpow_sub₀ two_ne_zero, zpow_one]
  rcases h.normal with hnormal | hleast
  · refine le_max_of_le_left ?_
    rw [hhalf, le_div_iff₀ (by positivity)]
    calc (2 : ℚ) ^ (e - 1) * 2 ^ 53 = 2 ^ (e - 1 + 53) := (zpow_add₀ two_ne_zero (e - 1) 53).symm
      _ = 2 ^ (52 + e) := by congr 1; ring
      _ ≤ r := hnormal
  · refine le_max_of_le_right ?_
    rw [hhalf, hleast]
    norm_num

theorem RoundedAt.between {scaled unit : ℕ} {e : ℤ} {r : ℚ} (h : RoundedAt e r)
    (hquotient : (scaled / unit : ℚ) = r / 2 ^ e) :
    Between (scaled / unit) e r ∧ scaled / unit < 2 ^ 53 := by
  have hpos : (0 : ℚ) < 2 ^ e := by positivity
  have hfloor : ((scaled / unit : ℕ) : ℚ) ≤ r / 2 ^ e := by
    rw [← hquotient, ← Nat.floor_div_eq_div (K := ℚ)]
    exact Nat.floor_le (by positivity)
  have hceil : r / 2 ^ e < (scaled / unit + 1 : ℕ) := by
    rw [← hquotient, ← Nat.floor_div_eq_div (K := ℚ), Nat.cast_add_one]
    exact Nat.lt_floor_add_one _
  have hdigits : r / 2 ^ e < 2 ^ 53 := by
    rw [div_lt_iff₀ hpos]
    exact h.digits.trans_eq (zpow_add₀ two_ne_zero 53 e)
  have hnormal : 2 ^ 52 ≤ scaled / unit ∨ e = -1074 := by
    refine h.normal.imp_left fun hlo => ?_
    have hbound : 2 ^ 52 ≤ r / 2 ^ e := by
      rw [le_div_iff₀ hpos]
      exact (zpow_add₀ two_ne_zero 52 e).symm.trans_le hlo
    have hlt : 2 ^ 52 < scaled / unit + 1 := by exact_mod_cast hbound.trans_lt hceil
    omega
  exact ⟨⟨(le_div_iff₀ hpos).mp hfloor, (div_lt_iff₀ hpos).mp hceil, h.least, hnormal⟩,
    by exact_mod_cast hfloor.trans_lt hdigits⟩

/-- Rounding to an integer of units picks the nearer end. -/
theorem nearestEven_of_quotient {scaled unit : ℕ} {e : ℤ} {r : ℚ} (hunit : 0 < unit)
    (hquotient : (scaled / unit : ℚ) = r / 2 ^ e) :
    (nearestEven scaled unit = scaled / unit ∧ r - (scaled / unit : ℕ) * 2 ^ e ≤ 2 ^ e / 2) ∨
      (nearestEven scaled unit = scaled / unit + 1 ∧
        2 ^ e / 2 ≤ r - (scaled / unit : ℕ) * 2 ^ e) := by
  have hpos : (0 : ℚ) < 2 ^ e := by positivity
  have hgap : r - (scaled / unit : ℕ) * 2 ^ e =
      ((scaled / unit : ℚ) - (scaled / unit : ℕ)) * 2 ^ e := by
    rw [sub_mul, hquotient, div_mul_cancel₀ _ hpos.ne']
  have hhalf : (2 : ℚ) ^ e / 2 = 1 / 2 * 2 ^ e := by ring
  rw [hgap, hhalf, mul_le_mul_iff_left₀ hpos, mul_le_mul_iff_left₀ hpos]
  exact nearestEven_spec scaled hunit

/-- A double that approximates a number: none is nearer, and it is off by at most half a unit in
the last place. -/
structure Approximates (x : Binary64) (r : ℚ) : Prop where
  closest : x.IsClosest r
  error : |x.value - r| ≤ max (r / 2 ^ 53) (2 ^ (-1075 : ℤ))

theorem exists_approximates_zero (den : ℕ) :
    ∃ x, ofRatio? false 0 den = some x ∧ x.Approximates 0 := by
  obtain ⟨x, hx, hunits⟩ := exists_ofParts_of_least (m := 0) (by decide)
  have hvalue : x.value = 0 := by
    rw [value_of_units hunits, Nat.cast_zero, zero_mul]
  refine ⟨x, hx, fun y => ?_, ?_⟩
  · simp [hvalue]
  · simp [hvalue]

/-- A quotient that is not too large is rounded to a double that approximates it. -/
theorem exists_approximates_ofRatio {num den k : ℕ} (hden : 0 < den)
    (hr : (num / den : ℚ) < 2 ^ k) (hk : k ≤ 1000) :
    ∃ x, ofRatio? false num den = some x ∧ x.Approximates (num / den) := by
  by_cases hzero : num = 0
  · subst hzero
    simpa using exists_approximates_zero den
  obtain ⟨hlo, hhi⟩ := floorLog_spec hzero hden.ne'
  have hlog : floorLog num den < k := by
    have hpow : (2 : ℚ) ^ floorLog num den < 2 ^ (k : ℤ) := by
      rw [zpow_natCast]
      exact hlo.trans_lt hr
    exact (zpow_lt_zpow_iff_right₀ one_lt_two).mp hpow
  have hplace := roundedAt_of_log hlo hhi
  have hgreatest : max (floorLog num den - 52) (-1074) ≤ 970 := by omega
  unfold ofRatio?
  rw [if_neg hzero]
  dsimp only
  generalize max (floorLog num den - 52) (-1074) = e at *
  have hunit : 0 < den * 2 ^ e.toNat := Nat.mul_pos hden (Nat.two_pow_pos _)
  have hquotient : ((num * 2 ^ (-e).toNat : ℕ) / (den * 2 ^ e.toNat : ℕ) : ℚ) =
      num / den / 2 ^ e := by
    rw [two_zpow_eq_div]
    push_cast
    field_simp
  obtain ⟨hbetween, hdigits⟩ := hplace.between hquotient
  have hnearest := nearestEven_of_quotient hunit hquotient
  generalize num * 2 ^ (-e).toNat = scaled at *
  generalize den * 2 ^ e.toNat = unit at *
  have hnormal := hbetween.normal
  -- Rounding up may lead to `2 ^ 53`, which is the significand of a double at the next place.
  obtain ⟨x, hx, hvalue⟩ := exists_value_ofParts (m := nearestEven scaled unit) (e := e)
    (by omega) hplace.least hgreatest (by omega)
  have hends := hnearest.imp
    (fun h => (⟨by rw [hvalue, h.1], h.2⟩ : x.value = (scaled / unit : ℕ) * 2 ^ e ∧ _))
    (fun h => (⟨by rw [hvalue, h.1], h.2⟩ : x.value = (scaled / unit + 1 : ℕ) * 2 ^ e ∧ _))
  obtain ⟨hclosest, herror⟩ := hbetween.isClosest hends
  exact ⟨x, hx, hclosest, herror.trans hplace.half_le⟩

end BearerAuth.Binary64
