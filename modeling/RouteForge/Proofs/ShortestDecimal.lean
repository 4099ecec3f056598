import RouteForge.Proofs.Rounding

/-!
The shortest decimal of a magnitude lies in its rounding interval, so it rounds to the magnitude.
-/

namespace RouteForge.Decimal

variable {magnitude : Magnitude}

/-- The factor by which a measured magnitude is larger than one in units of its last place. -/
def measuredFactor (magnitude : Magnitude) (unit : Int) : ℚ :=
  (4 * (upperFactor 2 magnitude.exponent * upperFactor 10 (-unit)) : Nat)

theorem measuredFactor_pos (magnitude : Magnitude) (unit : Int) :
    0 < measuredFactor magnitude unit := by
  have twos := upperFactor_pos (by decide : 0 < 2) magnitude.exponent
  have tens := upperFactor_pos (by decide : 0 < 10) (-unit)
  rw [measuredFactor]
  exact_mod_cast Nat.mul_pos (by decide) (Nat.mul_pos twos tens)

theorem measured_position (magnitude : Magnitude) (unit : Int) (count : Nat) :
    ((count * (measure magnitude unit).divisor : Nat) : ℚ) =
      count * 10 ^ unit / 2 ^ magnitude.exponent * measuredFactor magnitude unit := by
  have twos := upperFactor_quotient (by decide : 0 < 2) magnitude.exponent
  have tens := upperFactor_quotient (by decide : 0 < 10) unit
  rw [Nat.cast_ofNat] at twos tens
  have up : (upperFactor 2 magnitude.exponent : ℚ) ≠ 0 := by
    exact_mod_cast (upperFactor_pos (by decide) _).ne'
  have down : (upperFactor 2 (-magnitude.exponent) : ℚ) ≠ 0 := by
    exact_mod_cast (upperFactor_pos (by decide) _).ne'
  have fine : (upperFactor 10 (-unit) : ℚ) ≠ 0 := by
    exact_mod_cast (upperFactor_pos (by decide) _).ne'
  rw [← twos, ← tens, measure, measuredFactor]
  push_cast
  field_simp

theorem measured_lower (unit : Int) (nonzero : magnitude.significand ≠ 0) :
    ((measure magnitude unit).lower : ℚ) =
      (magnitude.significand - magnitude.reach) * measuredFactor magnitude unit := by
  rw [measure, measuredFactor, Magnitude.reach]
  split
  · push_cast [Nat.cast_sub (by omega : 1 ≤ 4 * magnitude.significand)]
    ring
  · push_cast [Nat.cast_sub (by omega : 2 ≤ 4 * magnitude.significand)]
    ring

theorem measured_upper (magnitude : Magnitude) (unit : Int) :
    ((measure magnitude unit).upper : ℚ) =
      (magnitude.significand + 1 / 2) * measuredFactor magnitude unit := by
  rw [measure, measuredFactor]
  push_cast
  ring

theorem near_of_readsBack {unit : Int} {count : Nat} (nonzero : magnitude.significand ≠ 0)
    (reads : (measure magnitude unit).readsBack count = true) :
    magnitude.Near (count * 10 ^ unit) := by
  have factor := measuredFactor_pos magnitude unit
  have closed : (measure magnitude unit).closed = (magnitude.significand % 2 == 0) := rfl
  rw [Measured.readsBack] at reads
  split at reads
  · next even =>
      rw [closed, beq_iff_eq] at even
      rw [Bool.and_eq_true, decide_eq_true_eq, decide_eq_true_eq, ← Nat.cast_le (α := ℚ),
        ← Nat.cast_le (α := ℚ), measured_position, measured_lower unit nonzero, measured_upper,
        mul_le_mul_iff_left₀ factor, mul_le_mul_iff_left₀ factor] at reads
      exact ⟨reads.1, reads.2, fun odd => by omega⟩
  · rw [Bool.and_eq_true, decide_eq_true_eq, decide_eq_true_eq, ← Nat.cast_lt (α := ℚ),
      ← Nat.cast_lt (α := ℚ), measured_position, measured_lower unit nonzero, measured_upper,
      mul_lt_mul_iff_left₀ factor, mul_lt_mul_iff_left₀ factor] at reads
    exact ⟨reads.1.le, reads.2.le, fun _ => reads⟩

theorem near_exact (magnitude : Magnitude) : magnitude.Near (exact magnitude).value := by
  have position : (exact magnitude).value / 2 ^ magnitude.exponent = magnitude.significand := by
    rw [div_eq_iff (by positivity), Scaled.value, exact]
    split
    · next negative =>
        obtain ⟨power, equal⟩ := Int.eq_ofNat_of_zero_le (Int.neg_nonneg.mpr negative.le)
        obtain same : magnitude.exponent = -(power : Int) := by omega
        have tens : (10 : ℚ) = 5 * 2 := by norm_num
        simp only [same, Int.natAbs_neg, Int.natAbs_natCast, zpow_neg, zpow_natCast, Nat.pow_eq]
        rw [tens, mul_pow]
        push_cast
        field_simp
    · next whole =>
        obtain ⟨power, same⟩ := Int.eq_ofNat_of_zero_le (Int.not_lt.mp whole)
        simp only [same, Int.natAbs_natCast, zpow_zero, zpow_natCast, Nat.pow_eq]
        push_cast
        ring
  have reach := magnitude.reach_bounds.1
  refine ⟨?_, ?_, ?_⟩
  · rw [position]
    linarith
  · rw [position]
    linarith
  · intro _
    rw [position]
    exact ⟨by linarith, by linarith⟩

theorem Measured.readsBack_of_nearest? {measured : Measured} {count : Nat}
    (found : measured.nearest? = some count) : measured.readsBack count = true := by
  simp only [nearest?] at found
  split at found
  · next reads _ =>
      obtain rfl := Option.some.inj found
      exact reads
  · next _ reads =>
      obtain rfl := Option.some.inj found
      exact reads
  · simp at found
  · next below above =>
      split at found
      · obtain rfl := Option.some.inj found
        exact below
      · obtain rfl := Option.some.inj found
        exact above
      · obtain rfl := Option.some.inj found
        split
        · exact below
        · exact above

theorem near_of_searchUnits {fuel : Nat} {unit : Int} {decimal : Scaled}
    (nonzero : magnitude.significand ≠ 0)
    (found : searchUnits magnitude fuel unit = some decimal) : magnitude.Near decimal.value := by
  induction fuel generalizing unit with
  | zero => simp [searchUnits] at found
  | succ fuel ih =>
      rw [searchUnits] at found
      split at found
      · next count nearest =>
          obtain rfl := Option.some.inj found
          exact near_of_readsBack nonzero (Measured.readsBack_of_nearest? nearest)
      · exact ih found

theorem near_shortest (nonzero : magnitude.significand ≠ 0) :
    magnitude.Near (shortest magnitude).value := by
  rw [shortest]
  cases found : searchUnits magnitude 24 (coarsestUnit magnitude) with
  | none => exact near_exact magnitude
  | some decimal => exact near_of_searchUnits nonzero found

end RouteForge.Decimal
