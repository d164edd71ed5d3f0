import BearerAuth.Proofs.Number.Nearest
import BearerAuth.Time.Span
import Mathlib.Tactic.NormNum

/-!
# Nanoseconds of a number of seconds

A number of seconds is cut at its floor. What remains is rounded, scaled to nanoseconds, rounded
again, and then rounded to an integer. All three roundings together are off by less than one
nanosecond, and they keep the order of numbers within a second.
-/
namespace BearerAuth.Binary64

theorem floor_eq (x : Binary64) : x.floor = ⌊x.value⌋ :=
  (Rat.floor_intCast_div_natCast x.units unitsPerOne).symm

theorem value_eq_iff {x : Binary64} {n : ℤ} : x.value = n ↔ x.units = n * unitsPerOne := by
  rw [value, div_eq_iff unitsPerOne_cast_pos.ne']
  exact_mod_cast Iff.rfl

theorem units_eq_of_value_eq {x y : Binary64} (h : x.value = y.value) : x.units = y.units := by
  rw [value, value, div_left_inj' unitsPerOne_cast_pos.ne'] at h
  exact_mod_cast h

theorem units_nonneg_iff {x : Binary64} : 0 ≤ x.units ↔ 0 ≤ x.value := by
  have hpos := unitsPerOne_cast_pos
  rw [value, le_div_iff₀ hpos, zero_mul]
  exact Int.cast_nonneg_iff.symm

theorem IsClosest.nonneg {x : Binary64} {r : ℚ} (h : x.IsClosest r) (hr : 0 ≤ r) :
    0 ≤ x.value := by
  obtain ⟨zero, hzero⟩ := exists_units_eq (n := 0) (by decide)
  have hnear := h zero
  rw [value_eq_iff.mpr hzero, Int.cast_zero, zero_sub, abs_neg, abs_of_nonneg hr] at hnear
  have := neg_le_abs (x.value - r)
  linarith

/-- For a number that is not negative, a half goes up. -/
theorem nearestInt_eq_floor {x : Binary64} (h : 0 ≤ x.value) :
    x.nearestInt = ⌊x.value + 1 / 2⌋ := by
  have hunits := units_nonneg_iff.mpr h
  have hhalf : x.value + 1 / 2 =
      ((2 * x.units.natAbs + unitsPerOne : ℕ) : ℤ) / ((2 * unitsPerOne : ℕ) : ℚ) := by
    have hpos := unitsPerOne_cast_pos
    have habs : |(x.units : ℚ)| = x.units := abs_of_nonneg (by exact_mod_cast hunits)
    push_cast
    rw [habs, value]
    field_simp
  rw [hhalf, Rat.floor_intCast_div_natCast, nearestInt]
  split
  · next hnegative =>
    have hzero : x.units.natAbs = 0 := by
      rw [units_of_negative hnegative] at hunits
      rw [natAbs_units]
      omega
    rw [hzero]
    have hsmall : (2 * 0 + unitsPerOne) / (2 * unitsPerOne) = 0 := by
      have := unitsPerOne_pos
      exact Nat.div_eq_of_lt (by omega)
    rw [← Int.natCast_ediv, hsmall]
    rfl
  · rfl

/-- The fraction of a second, as a number of nanoseconds before that is rounded. -/
def scaledFraction? (x : Binary64) : Option Binary64 :=
  (ofUnits? (x.units - x.floor * unitsPerOne)).bind fun fraction =>
    (ofInt? nanosPerSecond).bind fun scale => fraction.mul? scale

theorem units_sub_floor (x : Binary64) :
    0 ≤ x.units - x.floor * unitsPerOne ∧
      ((x.units - x.floor * unitsPerOne : ℤ) : ℚ) / unitsPerOne = Int.fract x.value := by
  constructor
  · have hpos : (unitsPerOne : ℤ) ≠ 0 := by exact_mod_cast unitsPerOne_pos.ne'
    have := Int.mul_ediv_self_le (x := x.units) hpos
    rw [floor, mul_comm]
    omega
  · rw [floor_eq, Int.fract, Int.cast_sub, Int.cast_mul, Int.cast_natCast, sub_div,
      mul_div_cancel_right₀ _ unitsPerOne_cast_pos.ne', value]

theorem exists_fraction (x : Binary64) :
    ∃ fraction, ofUnits? (x.units - x.floor * unitsPerOne) = some fraction ∧
      fraction.Approximates (Int.fract x.value) := by
  obtain ⟨hnonneg, hfract⟩ := x.units_sub_floor
  have hratio : ((x.units - x.floor * unitsPerOne).natAbs / unitsPerOne : ℚ) =
      Int.fract x.value := by
    rw [← hfract, Nat.cast_natAbs, abs_of_nonneg hnonneg]
  obtain ⟨fraction, hfraction, happroximates⟩ := exists_approximates_ofRatio (k := 0)
    unitsPerOne_pos (hratio.trans_lt ((Int.fract_lt_one _).trans_eq (pow_zero _).symm))
    (by decide)
  refine ⟨fraction, ?_, hratio ▸ happroximates⟩
  rw [ofUnits?, decide_eq_false (not_lt.mpr hnonneg), hfraction]

theorem exists_scale : ∃ scale, ofInt? nanosPerSecond = some scale ∧ scale.value = 10 ^ 9 := by
  obtain ⟨scale, hscale, hnearest⟩ := exists_ofInt (n := nanosPerSecond) (by decide)
  obtain ⟨exact, hexact⟩ := exists_units_eq (n := nanosPerSecond) (by decide)
  have hunits : scale.units = nanosPerSecond * unitsPerOne :=
    ((isNearest_iff_of_units_eq hexact scale).mp ((hnearest scale).mpr rfl)).trans hexact
  refine ⟨scale, hscale, ?_⟩
  rw [value_eq_iff.mpr hunits]
  norm_num [nanosPerSecond]

theorem exists_mul {x y : Binary64} {k : ℕ} (hx : 0 ≤ x.value) (hy : 0 ≤ y.value)
    (hk : k ≤ 1000) (hlt : x.value * y.value < 2 ^ k) :
    ∃ product, x.mul? y = some product ∧ product.Approximates (x.value * y.value) := by
  have hpos := unitsPerOne_cast_pos
  have hproduct : ((x.units * y.units : ℤ) : ℚ) / (unitsPerOne * unitsPerOne) =
      x.value * y.value := by
    rw [value, value]
    push_cast
    field_simp
  have hnonneg : 0 ≤ x.units * y.units :=
    mul_nonneg (units_nonneg_iff.mpr hx) (units_nonneg_iff.mpr hy)
  have hratio : ((x.units * y.units).natAbs / (unitsPerOne * unitsPerOne : ℕ) : ℚ) =
      x.value * y.value := by
    rw [← hproduct, Nat.cast_natAbs, abs_of_nonneg hnonneg, Nat.cast_mul]
  obtain ⟨product, hsome, happroximates⟩ := exists_approximates_ofRatio
    (Nat.mul_pos unitsPerOne_pos unitsPerOne_pos) (hratio.trans_lt hlt) hk
  refine ⟨product, ?_, hratio ▸ happroximates⟩
  rw [mul?, decide_eq_false (not_lt.mpr hnonneg), hsome]

/-- The whole nanoseconds of a fraction of a second. -/
def nanos (x : Binary64) : ℕ :=
  ((scaledFraction? x).map fun scaled => scaled.nearestInt.toNat).getD 0

/-- How the nanoseconds of a number of seconds are computed: the fraction is rounded, then its
product with a thousand million, and that to an integer. -/
structure ComputedBy (x part product : Binary64) : Prop where
  split : ofUnits? (x.units - x.floor * unitsPerOne) = some part
  split_near : part.Approximates (Int.fract x.value)
  scaled : ((ofInt? nanosPerSecond).bind fun scale => part.mul? scale) = some product
  scaled_near : product.Approximates (part.value * 10 ^ 9)
  whole : (x.nanos : ℤ) = ⌊product.value + 1 / 2⌋

theorem half_least_le : (2 : ℚ) ^ (-1075 : ℤ) ≤ 1 / 2 ^ 53 := by
  have hexp : (1 : ℚ) / 2 ^ 53 = 2 ^ (-53 : ℤ) := by norm_num
  rw [hexp]
  exact zpow_le_zpow_right₀ one_le_two (by decide)

theorem Approximates.error_le {x : Binary64} {r : ℚ} (h : x.Approximates r) (bound : ℚ)
    (hr : r ≤ bound) (hbound : 1 ≤ bound) : |x.value - r| ≤ bound / 2 ^ 53 := by
  refine h.error.trans (max_le ?_ ?_)
  · exact div_le_div_of_nonneg_right hr (by positivity)
  · exact half_least_le.trans (div_le_div_of_nonneg_right hbound (by positivity))

theorem exists_computedBy (x : Binary64) : ∃ part product, ComputedBy x part product := by
  obtain ⟨part, hpart, hpartNear⟩ := x.exists_fraction
  obtain ⟨scale, hscale, hvalue⟩ := exists_scale
  have hnonneg := hpartNear.closest.nonneg (Int.fract_nonneg _)
  have hone := hpartNear.error_le 1 (Int.fract_lt_one _).le le_rfl
  have hlt : part.value * scale.value < 2 ^ 30 := by
    have := le_abs_self (part.value - Int.fract x.value)
    have := Int.fract_lt_one x.value
    rw [hvalue]
    linarith
  obtain ⟨product, hproduct, hproductNear⟩ :=
    exists_mul hnonneg (hvalue ▸ by positivity) (by decide) hlt
  rw [hvalue] at hproductNear
  have hsome : ((ofInt? nanosPerSecond).bind fun scale => part.mul? scale) = some product := by
    rw [hscale, Option.bind_some, hproduct]
  refine ⟨part, product, hpart, hpartNear, hsome, hproductNear, ?_⟩
  have hproductNonneg := hproductNear.closest.nonneg (mul_nonneg hnonneg (by positivity))
  rw [nanos, scaledFraction?, hpart, Option.bind_some, hsome, Option.map_some, Option.getD_some,
    nearestInt_eq_floor hproductNonneg]
  exact Int.toNat_of_nonneg (Int.floor_nonneg.mpr (by linarith))

/-- The three roundings together move a fraction by less than a nanosecond. -/
theorem abs_nanos_sub_lt (x : Binary64) : |(x.nanos : ℚ) - Int.fract x.value * 10 ^ 9| < 1 := by
  obtain ⟨part, product, h⟩ := x.exists_computedBy
  have hfract := Int.fract_lt_one x.value
  have hpart := abs_le.mp (h.split_near.error_le 1 hfract.le le_rfl)
  have hproduct := abs_le.mp (h.scaled_near.error_le (2 ^ 30) (by linarith) (by norm_num))
  have hfloor := Int.floor_le (product.value + 1 / 2)
  have hceil := Int.lt_floor_add_one (product.value + 1 / 2)
  have hcast : (x.nanos : ℚ) = ⌊product.value + 1 / 2⌋ := by exact_mod_cast h.whole
  rw [← hcast] at hfloor hceil
  rw [abs_lt]
  constructor <;> linarith

theorem nanos_le (x : Binary64) : x.nanos ≤ nanosPerSecond := by
  have hlt := (abs_lt.mp x.abs_nanos_sub_lt).2
  have hfract := Int.fract_lt_one x.value
  have hbound : (x.nanos : ℚ) < 10 ^ 9 + 1 := by linarith
  have hnat : x.nanos < 10 ^ 9 + 1 := by exact_mod_cast hbound
  rw [nanosPerSecond]
  omega

/-- Within one second, a later moment has no fewer nanoseconds. -/
theorem nanos_mono {x y : Binary64} (hfloor : x.floor = y.floor) (h : x.value ≤ y.value) :
    x.nanos ≤ y.nanos := by
  obtain ⟨part, product, hx⟩ := x.exists_computedBy
  obtain ⟨part', product', hy⟩ := y.exists_computedBy
  rcases h.eq_or_lt with heq | hlt
  · rw [nanos, nanos, scaledFraction?, scaledFraction?, hfloor, units_eq_of_value_eq heq]
  have hfract : Int.fract x.value < Int.fract y.value := by
    rw [Int.fract, Int.fract, ← floor_eq, ← floor_eq, hfloor]
    linarith
  have hproduct : product.value ≤ product'.value := by
    rcases (hx.split_near.closest.mono hy.split_near.closest hfract).eq_or_lt with heq | hlt
    · have hsame := hx.scaled
      simp only [mul?, units_eq_of_value_eq heq] at hsame
      rw [Option.some.inj (hsame.symm.trans hy.scaled)]
    · exact hx.scaled_near.closest.mono hy.scaled_near.closest (by linarith)
  have hnanos : (x.nanos : ℤ) ≤ y.nanos := by
    rw [hx.whole, hy.whole]
    exact Int.floor_le_floor (by linarith)
  exact_mod_cast hnanos

/-! ## Far from the epoch -/

/-- Large numbers are multiples of a fraction of a second that is no nanosecond by far. -/
theorem exists_mul_pow_eq {x : Binary64} (h : 2 ^ 39 * unitsPerOne ≤ x.units.natAbs) :
    ∃ n : ℤ, x.value * 2 ^ 13 = n := by
  obtain ⟨j, hunits, hj⟩ : ∃ j : ℕ, unitsPerOne = 2 ^ j ∧ j = 1074 := ⟨_, rfl, rfl⟩
  obtain ⟨k, rfl⟩ : ∃ k : ℕ, j = 13 + k := ⟨j - 13, by omega⟩
  have hplace : k ≤ x.place := by
    have hlt : 2 ^ 52 * 2 ^ k < 2 ^ 53 * 2 ^ x.place := by
      calc 2 ^ 52 * 2 ^ k = 2 ^ 39 * unitsPerOne := by
            rw [hunits, Nat.pow_add]
            omega
        _ ≤ x.significand * 2 ^ x.place := h.trans_eq (natAbs_units x)
        _ < 2 ^ 53 * 2 ^ x.place :=
          Nat.mul_lt_mul_of_pos_right x.significand_lt (Nat.two_pow_pos _)
    have hpow : 2 ^ k < 2 ^ (x.place + 1) := by
      rw [Nat.pow_succ]
      omega
    have := (Nat.pow_lt_pow_iff_right (by decide)).mp hpow
    omega
  obtain ⟨n, hn⟩ : ((2 ^ k : ℕ) : ℤ) ∣ x.units := by
    rw [Int.natCast_dvd, natAbs_units]
    exact Dvd.dvd.mul_left (Nat.pow_dvd_pow 2 hplace) _
  refine ⟨n, ?_⟩
  rw [value, hn, hunits, Nat.pow_add]
  push_cast
  field_simp
  norm_num

/-- There no fraction is carried into the next second. -/
theorem nanos_lt_of_far {x : Binary64} (h : 2 ^ 39 * unitsPerOne ≤ x.units.natAbs) :
    x.nanos < nanosPerSecond := by
  obtain ⟨n, hn⟩ := exists_mul_pow_eq h
  have hfract : Int.fract x.value * 2 ^ 13 ≤ 2 ^ 13 - 1 := by
    have hsplit : Int.fract x.value * 2 ^ 13 = (n - ⌊x.value⌋ * 2 ^ 13 : ℤ) := by
      rw [Int.fract, sub_mul, hn]
      push_cast
      ring
    have hlt : ((n - ⌊x.value⌋ * 2 ^ 13 : ℤ) : ℚ) < (2 ^ 13 : ℤ) := by
      rw [← hsplit]
      have := Int.fract_lt_one x.value
      push_cast
      linarith
    have hle : n - ⌊x.value⌋ * 2 ^ 13 ≤ 2 ^ 13 - 1 := by
      have := Int.cast_lt.mp hlt
      omega
    rw [hsplit]
    exact_mod_cast hle
  have hlt := (abs_lt.mp x.abs_nanos_sub_lt).2
  have hbound : (x.nanos : ℚ) < 10 ^ 9 := by linarith
  rw [nanosPerSecond]
  exact_mod_cast hbound

end BearerAuth.Binary64
