import Mathlib.Algebra.Order.Field.Power
import Mathlib.Data.Rat.Cast.Order
import Mathlib.Tactic.FieldSimp
import Mathlib.Tactic.Linarith
import Mathlib.Tactic.NormNum
import Mathlib.Tactic.Positivity
import Mathlib.Tactic.Ring
import RouteForge.Decimal.Shortest

/-!
Rounding in exact arithmetic: every rational that lies in the rounding interval of a value rounds to
that value.
-/

namespace RouteForge.Decimal

def Scaled.value (decimal : Scaled) : ℚ :=
  decimal.digits * 10 ^ decimal.exponent

def Magnitude.reach (magnitude : Magnitude) : ℚ :=
  if magnitude.atPower then 1 / 4 else 1 / 2

/-- The rationals that round to a magnitude; the ends of the interval go to even significands. -/
structure Magnitude.Near (magnitude : Magnitude) (value : ℚ) : Prop where
  above : magnitude.significand - magnitude.reach ≤ value / 2 ^ magnitude.exponent
  below : value / 2 ^ magnitude.exponent ≤ magnitude.significand + 1 / 2
  inside : magnitude.significand % 2 = 1 →
    magnitude.significand - magnitude.reach < value / 2 ^ magnitude.exponent ∧
      value / 2 ^ magnitude.exponent < magnitude.significand + 1 / 2

theorem upperFactor_pos {base : Nat} (positive : 0 < base) (exponent : Int) :
    0 < upperFactor base exponent :=
  Nat.pow_pos positive

theorem upperFactor_quotient {base : Nat} (positive : 0 < base) (exponent : Int) :
    (upperFactor base exponent : ℚ) / upperFactor base (-exponent) = (base : ℚ) ^ exponent := by
  have nonzero : (base : ℚ) ≠ 0 := by positivity
  rcases Int.le_total 0 exponent with up | down
  · obtain ⟨power, rfl⟩ := Int.eq_ofNat_of_zero_le up
    simp [upperFactor]
  · obtain ⟨power, below⟩ := Int.eq_ofNat_of_zero_le (Int.neg_nonneg.mpr down)
    obtain rfl : exponent = -(power : Int) := by omega
    simp [upperFactor]

/-- The order past which a decimal is certainly out of range, on either side. -/
def rangeLimit : Int := 400

/-- The value nearest to a decimal, which is rounded once. -/
def nearest (decimal : Scaled) : Option Binary64 :=
  if decimal.digits = 0 ∨ decimal.order < -rangeLimit then
    some .zero
  else if rangeLimit < decimal.order then
    none
  else
    nearestValue (decimal.digits * upperFactor 10 decimal.exponent)
      (upperFactor 10 (-decimal.exponent))

/-! The leading exponent. -/

theorem log2_bounds {count : Nat} (positive : 0 < count) :
    (2 : ℚ) ^ count.log2 ≤ count ∧ (count : ℚ) < 2 ^ (count.log2 + 1) := by
  refine ⟨?_, ?_⟩
  · exact_mod_cast Nat.log2_self_le (Nat.pos_iff_ne_zero.mp positive)
  · exact_mod_cast Nat.lt_log2_self

theorem power_le_quotient_iff {numerator denominator : Nat} (down : 0 < denominator)
    (exponent : Int) :
    denominator * upperFactor 2 exponent ≤ numerator * upperFactor 2 (-exponent) ↔
      (2 : ℚ) ^ exponent ≤ numerator / denominator := by
  have scale : (0 : ℚ) < upperFactor 2 (-exponent) := by
    exact_mod_cast upperFactor_pos (by decide) (-exponent)
  have divisor : (0 : ℚ) < denominator := by exact_mod_cast down
  have power := upperFactor_quotient (by decide : 0 < 2) exponent
  rw [Nat.cast_ofNat] at power
  rw [← power, div_le_div_iff₀ scale divisor, mul_comm]
  exact_mod_cast Iff.rfl

theorem leadingExponent_bounds {numerator denominator : Nat} (up : 0 < numerator)
    (down : 0 < denominator) :
    (2 : ℚ) ^ leadingExponent numerator denominator ≤ numerator / denominator ∧
      (numerator / denominator : ℚ) < 2 ^ (leadingExponent numerator denominator + 1) := by
  obtain ⟨numeratorLeast, numeratorMost⟩ := log2_bounds up
  obtain ⟨denominatorLeast, denominatorMost⟩ := log2_bounds down
  have divisor : (0 : ℚ) < denominator := by exact_mod_cast down
  have guess : Int.ofNat numerator.log2 - Int.ofNat denominator.log2 =
      (numerator.log2 : Int) - denominator.log2 := rfl
  have most : (numerator / denominator : ℚ) <
      2 ^ ((numerator.log2 : Int) - denominator.log2 + 1) := by
    rw [div_lt_iff₀ divisor]
    calc (numerator : ℚ) < 2 ^ (numerator.log2 + 1) := numeratorMost
      _ = 2 ^ ((numerator.log2 : Int) - denominator.log2 + 1) * 2 ^ denominator.log2 := by
          rw [← zpow_natCast, ← zpow_natCast, ← zpow_add₀ two_ne_zero]
          congr 1
          omega
      _ ≤ 2 ^ ((numerator.log2 : Int) - denominator.log2 + 1) * denominator := by gcongr
  have least : (2 : ℚ) ^ ((numerator.log2 : Int) - denominator.log2 - 1) ≤
      numerator / denominator := by
    rw [le_div_iff₀ divisor]
    calc (2 : ℚ) ^ ((numerator.log2 : Int) - denominator.log2 - 1) * denominator
      _ ≤ 2 ^ ((numerator.log2 : Int) - denominator.log2 - 1) * 2 ^ (denominator.log2 + 1) := by
          gcongr
      _ = 2 ^ numerator.log2 := by
          rw [← zpow_natCast, ← zpow_natCast, ← zpow_add₀ two_ne_zero]
          congr 1
          omega
      _ ≤ numerator := numeratorLeast
  rw [leadingExponent, guess]
  simp only [power_le_quotient_iff down]
  split
  · next reached => exact ⟨reached, most⟩
  · next missed =>
      rw [sub_add_cancel]
      exact ⟨least, lt_of_not_ge missed⟩

theorem leadingExponent_eq {numerator denominator : Nat} {exponent : Int} (up : 0 < numerator)
    (down : 0 < denominator) (least : (2 : ℚ) ^ exponent ≤ numerator / denominator)
    (most : (numerator / denominator : ℚ) < 2 ^ (exponent + 1)) :
    leadingExponent numerator denominator = exponent := by
  obtain ⟨lower, upper⟩ := leadingExponent_bounds up down
  have first := (zpow_lt_zpow_iff_right₀ (by norm_num : (1 : ℚ) < 2)).mp (lower.trans_lt most)
  have second := (zpow_lt_zpow_iff_right₀ (by norm_num : (1 : ℚ) < 2)).mp (least.trans_lt upper)
  omega

/-! The nearest whole number. -/

theorem nearestQuotient_of_bounds {numerator denominator count : Nat} (down : 0 < denominator)
    (above : 2 * count * denominator ≤ 2 * numerator + denominator)
    (below : 2 * numerator ≤ (2 * count + 1) * denominator)
    (inside : count % 2 = 1 → 2 * count * denominator < 2 * numerator + denominator ∧
      2 * numerator < (2 * count + 1) * denominator) :
    nearestQuotient numerator denominator = count := by
  have parts := Nat.div_add_mod numerator denominator
  have small := Nat.mod_lt numerator down
  rw [nearestQuotient]
  generalize numerator / denominator = whole at *
  generalize numerator % denominator = rest at *
  subst parts
  have notBelow : whole ≤ count := by
    by_contra less
    nlinarith
  have notAbove : count ≤ whole + 1 := by
    by_contra more
    nlinarith
  obtain rfl | rfl : count = whole ∨ count = whole + 1 := by omega
  · have half : 2 * rest ≤ denominator := by linarith
    rcases Nat.lt_or_eq_of_le half with less | tie
    · simp [Nat.compare_eq_lt.mpr less]
    · have even : count % 2 = 0 := by
        by_contra odd
        have strict := (inside (by omega)).2
        linarith
      simp [tie, even]
  · have half : denominator ≤ 2 * rest := by linarith
    rcases Nat.lt_or_eq_of_le half with more | tie
    · simp [Nat.compare_eq_gt.mpr more]
    · have odd : ¬whole % 2 = 0 := by
        intro even
        have strict := (inside (by omega)).1
        linarith
      simp [← tie, odd]

theorem nearestQuotient_eq {numerator denominator count : Nat} (down : 0 < denominator)
    (above : (count : ℚ) - 1 / 2 ≤ numerator / denominator)
    (below : (numerator / denominator : ℚ) ≤ count + 1 / 2)
    (inside : count % 2 = 1 → (count : ℚ) - 1 / 2 < numerator / denominator ∧
      (numerator / denominator : ℚ) < count + 1 / 2) :
    nearestQuotient numerator denominator = count := by
  have divisor : (0 : ℚ) < denominator := by exact_mod_cast down
  rw [le_div_iff₀ divisor] at above
  rw [div_le_iff₀ divisor] at below
  rw [lt_div_iff₀ divisor, div_lt_iff₀ divisor] at inside
  apply nearestQuotient_of_bounds down
  · have scaled : (2 * count * denominator : ℚ) ≤ 2 * numerator + denominator := by linarith
    exact_mod_cast scaled
  · have scaled : (2 * numerator : ℚ) ≤ (2 * count + 1) * denominator := by linarith
    exact_mod_cast scaled
  · intro odd
    obtain ⟨strictlyAbove, strictlyBelow⟩ := inside odd
    have first : (2 * count * denominator : ℚ) < 2 * numerator + denominator := by linarith
    have second : (2 * numerator : ℚ) < (2 * count + 1) * denominator := by linarith
    exact ⟨by exact_mod_cast first, by exact_mod_cast second⟩

/-! Values. -/

/-- The magnitudes of values: all significands of a binade, and at the lowest exponent those below
it as well. -/
structure Magnitude.Canonical (magnitude : Magnitude) : Prop where
  lowest : lowestExponent ≤ magnitude.exponent
  highest : magnitude.exponent ≤ lowestExponent + 2045
  small : magnitude.significand < 2 * binade
  normal : lowestExponent < magnitude.exponent → binade ≤ magnitude.significand
  power : magnitude.atPower = true ↔
    magnitude.significand = binade ∧ lowestExponent < magnitude.exponent

theorem binade_eq : binade = 4503599627370496 :=
  rfl

theorem Binary64.canonical (value : Binary64) : value.magnitude.Canonical := by
  have small : value.rank.val % binade < binade := Nat.mod_lt _ (by decide)
  have biased : value.rank.val / binade < 2047 :=
    (Nat.div_lt_iff_lt_mul (by decide)).mpr value.rank.isLt
  rw [magnitude]
  split
  · constructor <;> simp
    omega
  · constructor <;> simp <;> omega

theorem Binary64.rank_eq (value : Binary64) :
    value.rank.val = (value.magnitude.exponent - lowestExponent).toNat * binade +
      value.magnitude.significand := by
  have parts := Nat.div_add_mod' value.rank.val binade
  rw [magnitude]
  split
  · next zero =>
      rw [zero] at parts
      simp only [Int.sub_self, Int.toNat_zero]
      exact parts.symm
  · next nonzero =>
      obtain ⟨biased, succ⟩ := Nat.exists_eq_succ_of_ne_zero nonzero
      simp only [succ, Nat.succ_eq_add_one, Nat.add_mul, Nat.one_mul] at parts
      simp [succ, ← Nat.add_assoc]
      exact parts.symm

theorem Binary64.eq_zero_of_significand (value : Binary64)
    (zero : value.magnitude.significand = 0) : { value with isNegative := false } = Binary64.zero := by
  have canonical := value.canonical
  have lowest : value.magnitude.exponent = lowestExponent := by
    by_contra higher
    have normal := canonical.normal (by have := canonical.lowest; omega)
    rw [zero, binade_eq] at normal
    omega
  have rank : value.rank.val = 0 := by
    rw [value.rank_eq, zero, lowest, Int.sub_self]
    rfl
  rw [Binary64.zero, mk.injEq]
  exact ⟨rfl, Fin.ext rank⟩

theorem quotient_at_place (numerator denominator : Nat) (place : Int) :
    ((numerator * upperFactor 2 (-place) : Nat) : ℚ) / (denominator * upperFactor 2 place : Nat) =
      numerator / denominator / 2 ^ place := by
  have power := upperFactor_quotient (by decide : 0 < 2) place
  rw [Nat.cast_ofNat] at power
  have up : (upperFactor 2 place : ℚ) ≠ 0 := by
    exact_mod_cast (upperFactor_pos (by decide) place).ne'
  have down : (upperFactor 2 (-place) : ℚ) ≠ 0 := by
    exact_mod_cast (upperFactor_pos (by decide) (-place)).ne'
  rw [← power]
  push_cast
  field_simp

theorem power_le_iff (quotient : ℚ) (place above : Int) :
    (2 : ℚ) ^ (place + above) ≤ quotient ↔ (2 : ℚ) ^ above ≤ quotient / 2 ^ place := by
  rw [le_div_iff₀ (by positivity), mul_comm, ← zpow_add₀ two_ne_zero]

theorem lt_power_iff (quotient : ℚ) (place above : Int) :
    quotient < (2 : ℚ) ^ (place + above) ↔ quotient / 2 ^ place < (2 : ℚ) ^ above := by
  rw [div_lt_iff₀ (by positivity), mul_comm, ← zpow_add₀ two_ne_zero]

variable {magnitude : Magnitude} {numerator denominator : Nat}

theorem Magnitude.reach_bounds (magnitude : Magnitude) :
    1 / 4 ≤ magnitude.reach ∧ magnitude.reach ≤ 1 / 2 := by
  rw [reach]
  split <;> norm_num

theorem Magnitude.Near.lt_next {quotient : ℚ} (near : magnitude.Near quotient)
    (canonical : magnitude.Canonical) : quotient < 2 ^ (magnitude.exponent + 53) := by
  rw [lt_power_iff]
  have small : (magnitude.significand : ℚ) + 1 ≤ 2 * binade := by exact_mod_cast canonical.small
  have below := near.below
  norm_num [binade] at small ⊢
  linarith

/-- A magnitude at a power of two is also nearest to what lies just below the power, where the
exponent is one less. -/
theorem nearestQuotient_below_power (down : 0 < denominator) (up : 0 < numerator)
    (canonical : magnitude.Canonical) (near : magnitude.Near (numerator / denominator))
    (power : magnitude.atPower = true)
    (fallen : (numerator / denominator : ℚ) < 2 ^ (magnitude.exponent + 52)) :
    leadingExponent numerator denominator = magnitude.exponent + 51 ∧
      nearestQuotient (numerator * upperFactor 2 (-(magnitude.exponent - 1)))
        (denominator * upperFactor 2 (magnitude.exponent - 1)) = 2 * binade := by
  have reach : magnitude.reach = 1 / 4 := by rw [Magnitude.reach, if_pos power]
  have significand := (canonical.power.mp power).1
  have above := near.above
  rw [significand, reach] at above
  norm_num [binade] at above
  refine ⟨?_, ?_⟩
  · apply leadingExponent_eq up down
    · rw [power_le_iff]
      refine le_trans ?_ above
      norm_num
    · rw [add_assoc]
      exact fallen
  · rw [lt_power_iff] at fallen
    have place : (numerator / denominator : ℚ) / 2 ^ (magnitude.exponent - 1) =
        2 * (numerator / denominator / 2 ^ magnitude.exponent) := by
      rw [zpow_sub_one₀ two_ne_zero]
      field_simp
    norm_num at fallen
    apply nearestQuotient_eq (Nat.mul_pos down (upperFactor_pos (by decide) _))
    · rw [quotient_at_place, place]
      norm_num [binade]
      linarith
    · rw [quotient_at_place, place]
      norm_num [binade]
      linarith
    · intro odd
      simp [binade] at odd

theorem leadingExponent_of_normal (down : 0 < denominator) (up : 0 < numerator)
    (canonical : magnitude.Canonical) (near : magnitude.Near (numerator / denominator))
    (level : magnitude.atPower = true →
      (2 : ℚ) ^ (magnitude.exponent + 52) ≤ numerator / denominator)
    (normal : lowestExponent < magnitude.exponent) :
    leadingExponent numerator denominator = magnitude.exponent + 52 := by
  have least : (2 : ℚ) ^ (magnitude.exponent + 52) ≤ numerator / denominator := by
    by_cases power : magnitude.atPower = true
    · exact level power
    · have beyond : binade < magnitude.significand := by
        have atLeast := canonical.normal normal
        have different : magnitude.significand ≠ binade := by
          intro same
          exact power (canonical.power.mpr ⟨same, normal⟩)
        omega
      have next : (4503599627370497 : ℚ) ≤ magnitude.significand := by exact_mod_cast beyond
      have above := near.above
      have reach := magnitude.reach_bounds.2
      rw [power_le_iff]
      norm_num
      linarith
  apply leadingExponent_eq up down least
  rw [add_assoc]
  exact near.lt_next canonical

theorem nearestQuotient_at_exponent (down : 0 < denominator) (up : 0 < numerator)
    (canonical : magnitude.Canonical) (near : magnitude.Near (numerator / denominator))
    (level : magnitude.atPower = true →
      (2 : ℚ) ^ (magnitude.exponent + 52) ≤ numerator / denominator) :
    max lowestExponent (leadingExponent numerator denominator - 52) = magnitude.exponent ∧
      nearestQuotient (numerator * upperFactor 2 (-magnitude.exponent))
        (denominator * upperFactor 2 magnitude.exponent) = magnitude.significand := by
  refine ⟨?_, ?_⟩
  · rcases Int.lt_or_eq_of_le canonical.lowest with normal | lowest
    · rw [leadingExponent_of_normal down up canonical near level normal]
      omega
    · have least := (leadingExponent_bounds up down).1
      have below := (zpow_lt_zpow_iff_right₀ (by norm_num : (1 : ℚ) < 2)).mp
        (least.trans_lt (near.lt_next canonical))
      omega
  · have above := near.above
    have reach := magnitude.reach_bounds.2
    apply nearestQuotient_eq (Nat.mul_pos down (upperFactor_pos (by decide) _))
    · rw [quotient_at_place]
      linarith
    · rw [quotient_at_place]
      exact near.below
    · intro odd
      obtain ⟨strictlyAbove, strictlyBelow⟩ := near.inside odd
      rw [quotient_at_place]
      exact ⟨by linarith, strictlyBelow⟩

theorem nearestValue_of_near {value : Binary64} (positive : value.isNegative = false)
    (down : 0 < denominator) (up : 0 < numerator)
    (near : value.magnitude.Near (numerator / denominator)) :
    nearestValue numerator denominator = some value := by
  have canonical := value.canonical
  have same : ∀ place count, max lowestExponent (leadingExponent numerator denominator - 52) = place →
      nearestQuotient (numerator * upperFactor 2 (-place)) (denominator * upperFactor 2 place) =
        count →
      (place - lowestExponent).toNat * binade + count = value.rank.val →
        nearestValue numerator denominator = some value := by
    rintro place count rfl rfl rank
    have inRange := value.rank.isLt
    rw [← rank] at inRange
    rw [nearestValue, dif_pos inRange]
    obtain ⟨sign, rankOf, bound⟩ := value
    subst positive
    simp only at rank
    simp [rank]
  by_cases fallen : value.magnitude.atPower = true ∧
      (numerator / denominator : ℚ) < 2 ^ (value.magnitude.exponent + 52)
  · obtain ⟨power, fallen⟩ := fallen
    obtain ⟨leading, quotient⟩ := nearestQuotient_below_power down up canonical near power fallen
    obtain ⟨significand, normal⟩ := canonical.power.mp power
    refine same (value.magnitude.exponent - 1) _ (by omega) quotient ?_
    rw [value.rank_eq, significand, binade_eq]
    omega
  · have level : value.magnitude.atPower = true →
        (2 : ℚ) ^ (value.magnitude.exponent + 52) ≤ numerator / denominator := by
      intro power
      exact le_of_not_gt fun less => fallen ⟨power, less⟩
    obtain ⟨place, quotient⟩ := nearestQuotient_at_exponent down up canonical near level
    exact same _ _ place quotient value.rank_eq.symm

/-! Decimals. -/

theorem toDigits_bounds {digits : Nat} (nonzero : digits ≠ 0) :
    10 ^ ((Nat.toDigits 10 digits).length - 1) ≤ digits ∧
      digits < 10 ^ (Nat.toDigits 10 digits).length := by
  have positive := Nat.length_toDigits_pos (b := 10) (n := digits)
  refine ⟨?_, (Nat.length_toDigits_le_iff (by decide) positive).mp (Nat.le_refl _)⟩
  by_cases single : (Nat.toDigits 10 digits).length = 1
  · rw [single]
    exact Nat.pos_of_ne_zero nonzero
  · by_contra less
    have shorter := (Nat.length_toDigits_le_iff (by decide) (by omega)).mpr (Nat.lt_of_not_le less)
    omega

theorem Scaled.order_bounds {decimal : Scaled} (nonzero : decimal.digits ≠ 0) :
    (10 : ℚ) ^ (decimal.order - 1) ≤ decimal.value ∧ decimal.value < 10 ^ decimal.order := by
  obtain ⟨least, most⟩ := toDigits_bounds nonzero
  have positive := Nat.length_toDigits_pos (b := 10) (n := decimal.digits)
  have first : (10 : ℚ) ^ (decimal.order - 1) =
      10 ^ ((Nat.toDigits 10 decimal.digits).length - 1) * 10 ^ decimal.exponent := by
    rw [← zpow_natCast, ← zpow_add₀ (by norm_num)]
    congr 1
    simp only [order, Int.ofNat_eq_natCast]
    omega
  have last : (10 : ℚ) ^ decimal.order =
      10 ^ (Nat.toDigits 10 decimal.digits).length * 10 ^ decimal.exponent := by
    rw [← zpow_natCast, ← zpow_add₀ (by norm_num)]
    rfl
  rw [first, last, value]
  refine ⟨?_, ?_⟩
  · gcongr
    exact_mod_cast least
  · gcongr
    exact_mod_cast most

theorem Magnitude.Near.bounds {quotient : ℚ} (near : magnitude.Near quotient)
    (canonical : magnitude.Canonical) (nonzero : magnitude.significand ≠ 0) :
    (2 : ℚ) ^ (-1075 : Int) ≤ quotient ∧ quotient < 2 ^ (1024 : Int) := by
  have lowest := canonical.lowest
  have highest := canonical.highest
  rw [lowestExponent] at lowest highest
  refine ⟨?_, ?_⟩
  · have one : (1 : ℚ) ≤ magnitude.significand := by
      exact_mod_cast Nat.pos_of_ne_zero nonzero
    have above := near.above
    have reach := magnitude.reach_bounds.2
    calc (2 : ℚ) ^ (-1075 : Int) ≤ 2 ^ (magnitude.exponent + -1) :=
          zpow_le_zpow_right₀ one_le_two (by omega)
      _ ≤ quotient := by
          rw [power_le_iff, zpow_neg_one]
          linarith
  · calc quotient < 2 ^ (magnitude.exponent + 53) := near.lt_next canonical
      _ ≤ 2 ^ (1024 : Int) := zpow_le_zpow_right₀ one_le_two (by omega)

theorem Scaled.digits_ne_zero {decimal : Scaled}
    (least : (2 : ℚ) ^ (-1075 : Int) ≤ decimal.value) : decimal.digits ≠ 0 := by
  intro zero
  have positive : (0 : ℚ) < 2 ^ (-1075 : Int) := by positivity
  rw [value, zero, Nat.cast_zero, zero_mul] at least
  linarith

theorem power_of_two_lt_power_of_ten : (2 : ℚ) ^ (1075 : Int) < 10 ^ (400 : Int) := by
  have naturals : 2 ^ 1075 < 10 ^ 400 := by decide +kernel
  rw [zpow_ofNat, zpow_ofNat]
  exact_mod_cast naturals

theorem Scaled.order_within {decimal : Scaled} (nonzero : decimal.digits ≠ 0)
    (least : (2 : ℚ) ^ (-1075 : Int) ≤ decimal.value)
    (most : decimal.value < 2 ^ (1024 : Int)) :
    -rangeLimit ≤ decimal.order ∧ decimal.order ≤ rangeLimit := by
  obtain ⟨lower, upper⟩ := decimal.order_bounds nonzero
  rw [rangeLimit]
  refine ⟨?_, ?_⟩
  · by_contra beyond
    have tiny : (10 : ℚ) ^ decimal.order ≤ 10 ^ (-400 : Int) :=
      zpow_le_zpow_right₀ (by norm_num) (by omega)
    have gap : (10 : ℚ) ^ (-400 : Int) < 2 ^ (-1075 : Int) := by
      rw [zpow_neg, zpow_neg]
      exact inv_strictAnti₀ (by positivity) power_of_two_lt_power_of_ten
    exact lt_irrefl _ (((least.trans_lt upper).trans_le tiny).trans gap)
  · by_contra beyond
    have huge : (10 : ℚ) ^ (400 : Int) ≤ 10 ^ (decimal.order - 1) :=
      zpow_le_zpow_right₀ (by norm_num) (by omega)
    have gap : (2 : ℚ) ^ (1024 : Int) < 10 ^ (400 : Int) :=
      (zpow_le_zpow_right₀ one_le_two (by norm_num)).trans_lt power_of_two_lt_power_of_ten
    exact lt_irrefl _ (((lower.trans_lt most).trans gap).trans_le huge)

theorem nearest_of_near {value : Binary64} {decimal : Scaled} (positive : value.isNegative = false)
    (nonzero : value.magnitude.significand ≠ 0) (near : value.magnitude.Near decimal.value) :
    nearest decimal = some value := by
  obtain ⟨least, most⟩ := near.bounds value.canonical nonzero
  have digits := Scaled.digits_ne_zero least
  obtain ⟨lower, upper⟩ := Scaled.order_within digits least most
  have down := upperFactor_pos (by decide : 0 < 10) (-decimal.exponent)
  have quotient : ((decimal.digits * upperFactor 10 decimal.exponent : Nat) : ℚ) /
      upperFactor 10 (-decimal.exponent) = decimal.value := by
    rw [Nat.cast_mul, mul_div_assoc, upperFactor_quotient (by decide), Scaled.value]
    rfl
  rw [nearest, if_neg (by omega), if_neg (by omega)]
  apply nearestValue_of_near positive down
  · exact Nat.mul_pos (Nat.pos_of_ne_zero digits) (upperFactor_pos (by decide) _)
  · rw [quotient]
    exact near

end RouteForge.Decimal
