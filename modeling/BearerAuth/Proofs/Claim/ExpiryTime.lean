import BearerAuth.Proofs.Claim.Numbers
import BearerAuth.Proofs.Number.Nanoseconds
import BearerAuth.Proofs.Time.Deadline

/-!
# Reading an expiry

Whatever form a number of seconds has, it stands for one number of nanoseconds, and the instant
is the one with that many, if there is one. The number of nanoseconds is exact for whole seconds,
off by less than one for others, and grows with the number of seconds.
-/
namespace BearerAuth

open Json

namespace Instant

/-- The numbers of nanoseconds that instants have. -/
theorem exists_toNanos_eq_iff {n : ℤ} : (∃ t : Instant, t.toNanos = n) ↔
    firstSecond * nanosPerSecond ≤ n ∧ n < (lastSecond + 1) * nanosPerSecond := by
  constructor
  · rintro ⟨t, rfl⟩
    have := t.first_le
    have := t.le_last
    have := t.nanos_lt
    simp only [toNanos, nanosPerSecond] at *
    omega
  · rintro ⟨hfirst, hlast⟩
    simp only [nanosPerSecond] at hfirst hlast
    refine ⟨⟨n / nanosPerSecond, (n % nanosPerSecond).toNat, ?_, ?_, ?_⟩, ?_⟩
    all_goals
      simp only [toNanos, nanosPerSecond]
      omega

theorem of?_eq_some_iff_toNanos {seconds : ℤ} {nanos : ℕ} {t : Instant}
    (h : nanos < nanosPerSecond) :
    of? seconds nanos = some t ↔ t.toNanos = seconds * nanosPerSecond + nanos := by
  have := t.nanos_lt
  rw [of?_eq_some_iff]
  simp only [toNanos, nanosPerSecond] at *
  omega

end Instant

namespace Claim

theorem instantOfDouble?_eq (x : Binary64) :
    instantOfDouble? x =
      if 2 ^ 63 * Binary64.unitsPerOne ≤ x.units.natAbs then none
      else x.scaledFraction?.bind fun scaled =>
        if nanosPerSecond ≤ scaled.nearestInt.toNat then Instant.of? (x.floor + 1) 0
        else Instant.of? x.floor scaled.nearestInt.toNat :=
  rfl

/-- Numbers that are not converted at all have no instant either. -/
theorem floor_of_far {x : Binary64} (h : 2 ^ 63 * Binary64.unitsPerOne ≤ x.units.natAbs) :
    x.floor < firstSecond - 1 ∨ lastSecond < x.floor := by
  have hpos : 0 < (Binary64.unitsPerOne : ℤ) := by exact_mod_cast Binary64.unitsPerOne_pos
  simp only [Binary64.floor, firstSecond, lastSecond]
  rcases le_total 0 x.units with hsign | hsign
  · have hfar := Int.le_ediv_of_mul_le (a := 2 ^ 63) (b := x.units) hpos (by omega)
    omega
  · have hfar := Int.ediv_le_of_le_mul (a := x.units) (b := -2 ^ 63) hpos (by omega)
    omega

/-- A carry into the next second is what a thousand million nanoseconds come to. -/
theorem instantOfDouble?_eq_some_iff {x : Binary64} {t : Instant} :
    instantOfDouble? x = some t ↔ t.toNanos = x.floor * nanosPerSecond + x.nanos := by
  have hle := x.nanos_le
  rw [instantOfDouble?_eq]
  split
  · next hfar =>
    refine iff_of_false nofun fun heq => ?_
    have := floor_of_far hfar
    have := t.first_le
    have := t.le_last
    have := t.nanos_lt
    simp only [Instant.toNanos, nanosPerSecond, firstSecond, lastSecond] at *
    omega
  · obtain ⟨part, product, h⟩ := x.exists_computedBy
    have hscaled : x.scaledFraction? = some product := by
      rw [Binary64.scaledFraction?, h.split, Option.bind_some, h.scaled]
    have hnanos : product.nearestInt.toNat = x.nanos := by
      rw [Binary64.nanos, hscaled, Option.map_some, Option.getD_some]
    rw [hscaled, Option.bind_some, hnanos]
    split
    · next hcarry =>
      have htop : x.nanos = nanosPerSecond := le_antisymm hle hcarry
      rw [Instant.of?_eq_some_iff_toNanos nanosPerSecond_pos, htop]
      simp only [nanosPerSecond]
      omega
    · next hfits => exact Instant.of?_eq_some_iff_toNanos (not_le.mp hfits)

end Claim

namespace Json.Number

/-- The exact value. -/
def value (number : Number) : ℚ := number.units / Binary64.unitsPerOne

/-- The number of nanoseconds that a number of seconds is read as. -/
def nanos : Number → ℤ
  | integer n _ => n * nanosPerSecond
  | double x => x.floor * nanosPerSecond + x.nanos

theorem value_integer (n : ℤ) (fits : FitsWord n) : (integer n fits).value = n := by
  rw [value, units_integer, Int.cast_mul, Int.cast_natCast,
    mul_div_cancel_right₀ _ Binary64.unitsPerOne_cast_pos.ne']

theorem value_double (x : Binary64) : (double x).value = x.value := rfl

/-- Less than a nanosecond is lost. -/
theorem abs_nanos_sub_lt (number : Number) :
    |(number.nanos : ℚ) - number.value * 10 ^ 9| < 1 := by
  cases number with
  | integer n fits =>
    rw [value_integer, nanos]
    norm_num [nanosPerSecond]
  | double x =>
    have hlt := x.abs_nanos_sub_lt
    have hfloor : (x.floor : ℚ) = x.value - Int.fract x.value := by
      rw [Binary64.floor_eq, Int.self_sub_fract]
    have heq : ((double x).nanos : ℚ) - (double x).value * 10 ^ 9 =
        x.nanos - Int.fract x.value * 10 ^ 9 := by
      rw [value_double, nanos]
      push_cast [nanosPerSecond]
      rw [hfloor]
      ring
    rw [heq]
    exact hlt

/-- Of whole seconds nothing is lost. -/
theorem nanos_of_value_eq {number : Number} {s : ℤ} (h : number.value = s) :
    number.nanos = s * nanosPerSecond := by
  have hlt := number.abs_nanos_sub_lt
  have hcast : (number.nanos : ℚ) - number.value * 10 ^ 9 =
      (number.nanos - s * nanosPerSecond : ℤ) := by
    rw [h]
    push_cast [nanosPerSecond]
    ring
  rw [hcast] at hlt
  have hzero : |number.nanos - s * nanosPerSecond| < 1 := by exact_mod_cast hlt
  have := Int.abs_lt_one_iff.mp hzero
  omega

/-- The result lies in the second that the number lies in, or at its end. -/
theorem nanos_bounds (number : Number) :
    ⌊number.value⌋ * nanosPerSecond ≤ number.nanos ∧
      number.nanos ≤ (⌊number.value⌋ + 1) * nanosPerSecond := by
  cases number with
  | integer n fits =>
    rw [value_integer, Int.floor_intCast, nanos, nanosPerSecond]
    omega
  | double x =>
    have := x.nanos_le
    rw [value_double, ← Binary64.floor_eq, nanos, nanosPerSecond] at *
    omega

/-- Near the first and the last instant it does not come to the end of the second. -/
theorem nanos_lt_of_far {number : Number}
    (h : 2 ^ 40 ≤ ⌊number.value⌋ ∨ ⌊number.value⌋ < -2 ^ 40) :
    number.nanos < (⌊number.value⌋ + 1) * nanosPerSecond := by
  cases number with
  | integer n fits =>
    rw [value_integer, Int.floor_intCast, nanos, nanosPerSecond]
    omega
  | double x =>
    rw [value_double, ← Binary64.floor_eq] at h ⊢
    have hpos : 0 < (Binary64.unitsPerOne : ℤ) := by exact_mod_cast Binary64.unitsPerOne_pos
    have hfar : 2 ^ 39 * Binary64.unitsPerOne ≤ x.units.natAbs := by
      rcases h with hlate | hearly
      · have := Int.mul_le_of_le_ediv hpos hlate
        omega
      · have := Int.lt_mul_of_ediv_lt hpos hearly
        omega
    have := Binary64.nanos_lt_of_far hfar
    rw [nanos, nanosPerSecond] at *
    omega

theorem nanos_mono {a b : Number} (h : a.value ≤ b.value) : a.nanos ≤ b.nanos := by
  have ha := a.nanos_bounds
  have hb := b.nanos_bounds
  rcases (Int.floor_le_floor h).lt_or_eq with hlt | hsame
  · -- Between different seconds even a carry does not lead past the beginning of the later one.
    calc a.nanos ≤ (⌊a.value⌋ + 1) * nanosPerSecond := ha.2
      _ ≤ ⌊b.value⌋ * nanosPerSecond := by
        rw [nanosPerSecond]
        omega
      _ ≤ b.nanos := hb.1
  · cases a with
    | integer n fits =>
      rw [value_integer, Int.floor_intCast] at hsame
      rw [nanos, hsame]
      exact hb.1
    | double x =>
      cases b with
      | integer n fits =>
        rw [value_integer, Int.floor_intCast] at hsame
        have hexact : (double x).value = n := by
          refine le_antisymm (h.trans_eq (value_integer n fits)) ?_
          rw [← hsame]
          exact Int.floor_le _
        rw [nanos_of_value_eq hexact, nanos]
      | double y =>
        rw [value_double, value_double, ← Binary64.floor_eq, ← Binary64.floor_eq] at hsame
        have := Binary64.nanos_mono hsame h
        rw [nanos, nanos, hsame]
        omega

end Json.Number

namespace Claim

/-- The double nearest to a number from `2 ^ 63` on is not below `2 ^ 63`. -/
theorem far_of_isNearest {x : Binary64} {n : ℤ} (hn : 2 ^ 63 ≤ n)
    (h : x.IsNearest (n * Binary64.unitsPerOne)) :
    2 ^ 63 * Binary64.unitsPerOne ≤ x.units.natAbs := by
  obtain ⟨y, -, hy⟩ := Binary64.exists_value_ofParts (m := 2 ^ 52) (e := 11) (by decide) (by decide)
    (by decide) (.inl le_rfl)
  have hunits : y.units = 2 ^ 63 * Binary64.unitsPerOne := by
    rw [← Binary64.value_eq_iff, hy]
    norm_num
  have hmul : 2 ^ 63 * (Binary64.unitsPerOne : ℤ) ≤ n * Binary64.unitsPerOne :=
    mul_le_mul_of_nonneg_right hn (Int.natCast_nonneg _)
  have hbound := h.nearest y
  rw [Binary64.distance, Binary64.distance, hunits] at hbound
  omega

theorem instantOfNumber?_eq_some_iff {number : Number} {t : Instant} :
    instantOfNumber? number = some t ↔ t.toNanos = number.nanos := by
  cases number with
  | double x => exact instantOfDouble?_eq_some_iff
  | integer n fits =>
    rw [instantOfNumber?]
    split
    · rw [Instant.of?_eq_some_iff_toNanos nanosPerSecond_pos, Number.nanos, Nat.cast_zero, add_zero]
    · next hlarge =>
      obtain ⟨x, hx, hnearest⟩ := Binary64.exists_ofInt (Number.log2_le_of_fits fits)
      have hfar := far_of_isNearest (not_lt.mp hlarge) ((hnearest x).mpr rfl)
      rw [hx, Option.bind_some, instantOfDouble?_eq, if_pos hfar]
      refine iff_of_false nofun fun heq => ?_
      have := t.le_last
      have := t.nanos_lt
      simp only [Instant.toNanos, Number.nanos, nanosPerSecond, lastSecond] at *
      omega

/-- A number of seconds stands for an instant if its whole part does. -/
theorem exists_instantOfNumber?_iff {number : Number} :
    (∃ t, instantOfNumber? number = some t) ↔
      firstSecond ≤ ⌊number.value⌋ ∧ ⌊number.value⌋ ≤ lastSecond := by
  have hbounds := number.nanos_bounds
  have hfar := number.nanos_lt_of_far
  simp only [instantOfNumber?_eq_some_iff, Instant.exists_toNanos_eq_iff]
  simp only [firstSecond, lastSecond, nanosPerSecond] at *
  omega

theorem expiryTime_of_number {claims : Members} {number : Number}
    (h : claims.get? "exp" = some (.number number)) :
    expiryTime claims = (instantOfNumber? number).elim (.error ⟨["exp"], .value⟩) .ok := by
  simp only [expiryTime, h]
  cases instantOfNumber? number with
  | none => rfl
  | some t => rfl

theorem expiryTime_eq_ok_iff {claims : Members} {number : Number} {t : Instant}
    (h : claims.get? "exp" = some (.number number)) :
    expiryTime claims = .ok t ↔ t.toNanos = number.nanos := by
  rw [expiryTime_of_number h, ← instantOfNumber?_eq_some_iff]
  cases instantOfNumber? number with
  | none => exact iff_of_false nofun nofun
  | some u => simp

/-- Instants are read in the order of their numbers. -/
theorem toNanos_le_of_value_le {claims claims' : Members} {number number' : Number} {t t' : Instant}
    (h : claims.get? "exp" = some (.number number))
    (h' : claims'.get? "exp" = some (.number number')) (hle : number.value ≤ number'.value)
    (ht : expiryTime claims = .ok t) (ht' : expiryTime claims' = .ok t') :
    t.toNanos ≤ t'.toNanos := by
  rw [(expiryTime_eq_ok_iff h).mp ht, (expiryTime_eq_ok_iff h').mp ht']
  exact Number.nanos_mono hle

/-- The three forms of a number of seconds are read alike. -/
theorem expiryTime_congr {claims claims' : Members} {number number' : Number}
    (h : claims.get? "exp" = some (.number number))
    (h' : claims'.get? "exp" = some (.number number')) (heq : number.value = number'.value) :
    expiryTime claims = expiryTime claims' := by
  have hnanos : number.nanos = number'.nanos :=
    le_antisymm (Number.nanos_mono heq.le) (Number.nanos_mono heq.ge)
  have hinstant : instantOfNumber? number = instantOfNumber? number' :=
    Option.ext fun t => by
      rw [instantOfNumber?_eq_some_iff, instantOfNumber?_eq_some_iff, hnanos]
  rw [expiryTime_of_number h, expiryTime_of_number h', hinstant]

/-- How the expiry is read from a token's claims. -/
structure ExpiryRead (claims : Members) : Prop where
  missing : claims.get? "exp" = none → expiryTime claims = .error ⟨["exp"], .missing⟩
  mistyped : ∀ value, claims.get? "exp" = some value → value.kind ≠ .number →
    expiryTime claims = .error ⟨["exp"], .kind .number value.kind⟩
  /-- A whole number of seconds of any representation is its instant, without rounding. -/
  whole : ∀ number (s : ℤ), claims.get? "exp" = some (.number number) → number.value = s →
    firstSecond ≤ s → s ≤ lastSecond →
      ∃ t, expiryTime claims = .ok t ∧ t.seconds = s ∧ t.nanos = 0
  /-- Any other number is read as an instant less than a nanosecond away. -/
  faithful : ∀ number, claims.get? "exp" = some (.number number) →
    firstSecond ≤ ⌊number.value⌋ → ⌊number.value⌋ ≤ lastSecond →
      ∃ t, expiryTime claims = .ok t ∧ t.nanos < 10 ^ 9 ∧
        |(t.toNanos : ℚ) - number.value * 10 ^ 9| < 1
  /-- Whole or not, a number of seconds before the first or after the last one is refused. -/
  outside : ∀ number, claims.get? "exp" = some (.number number) →
    (⌊number.value⌋ < firstSecond ∨ lastSecond < ⌊number.value⌋) →
      expiryTime claims = .error ⟨["exp"], .value⟩
  alike : ∀ claims' number number', claims.get? "exp" = some (.number number) →
    claims'.get? "exp" = some (.number number') → number.value = number'.value →
      expiryTime claims = expiryTime claims'
  monotone : ∀ claims' number number' t t', claims.get? "exp" = some (.number number) →
    claims'.get? "exp" = some (.number number') → number.value ≤ number'.value →
      expiryTime claims = .ok t → expiryTime claims' = .ok t' → t.toNanos ≤ t'.toNanos

/-- Expiries are read exactly where they are whole seconds, and faithfully where they are not. -/
theorem expiry_read (claims : Members) : ExpiryRead claims where
  missing h := by simp only [expiryTime, h]
  mistyped value h hkind := by
    cases value with
    | number number => exact absurd rfl hkind
    | null | bool b | string text | array items | object members => simp only [expiryTime, h]
  whole number s h hvalue hfirst hlast := by
    have hnanos : (⟨s, 0, nanosPerSecond_pos, hfirst, hlast⟩ : Instant).toNanos = number.nanos := by
      rw [Number.nanos_of_value_eq hvalue, Instant.toNanos, Nat.cast_zero, add_zero]
    exact ⟨_, (expiryTime_eq_ok_iff h).mpr hnanos, rfl, rfl⟩
  faithful number h hfirst hlast := by
    obtain ⟨t, ht⟩ := exists_instantOfNumber?_iff.mpr ⟨hfirst, hlast⟩
    have hnanos := instantOfNumber?_eq_some_iff.mp ht
    refine ⟨t, (expiryTime_eq_ok_iff h).mpr hnanos, t.nanos_lt, ?_⟩
    rw [hnanos]
    exact number.abs_nanos_sub_lt
  outside number h hout := by
    have hnone : instantOfNumber? number = none := by
      refine Option.eq_none_iff_forall_ne_some.mpr fun t ht => ?_
      have := exists_instantOfNumber?_iff.mp ⟨t, ht⟩
      omega
    rw [expiryTime_of_number h, hnone, Option.elim_none]
  alike _ _ _ h h' heq := expiryTime_congr h h' heq
  monotone _ _ _ _ _ h h' hle ht ht' := toNanos_le_of_value_le h h' hle ht ht'

end Claim

end BearerAuth
