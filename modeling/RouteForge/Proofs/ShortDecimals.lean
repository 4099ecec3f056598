import RouteForge.Proofs.ValueTexts

/-!
Short decimals are read as the values nearest to them: their digits and the power of ten are values
themselves, so that of all steps only the last one rounds.
-/

namespace RouteForge.Decimal

/-! Rounding depends on the quotient alone. -/

theorem nearestQuotient_mul (numerator denominator : Nat) {factor : Nat} (positive : 0 < factor) :
    nearestQuotient (numerator * factor) (denominator * factor) =
      nearestQuotient numerator denominator := by
  have twice (rest : Nat) : compare (2 * (rest * factor)) (denominator * factor) =
      compare (2 * rest) denominator := by
    rw [← Nat.mul_assoc]
    rcases Nat.lt_trichotomy (2 * rest) denominator with less | same | more
    · rw [Nat.compare_eq_lt.mpr less,
        Nat.compare_eq_lt.mpr (Nat.mul_lt_mul_of_pos_right less positive)]
    · rw [same]
      simp
    · rw [Nat.compare_eq_gt.mpr more,
        Nat.compare_eq_gt.mpr (Nat.mul_lt_mul_of_pos_right more positive)]
  simp only [nearestQuotient, Nat.mul_div_mul_right _ _ positive, Nat.mul_mod_mul_right, twice]

theorem nearestQuotient_congr {first second third fourth : Nat} (down : 0 < second)
    (downNext : 0 < fourth) (same : first * fourth = third * second) :
    nearestQuotient first second = nearestQuotient third fourth := by
  rw [← nearestQuotient_mul first second downNext, ← nearestQuotient_mul third fourth down, same,
    Nat.mul_comm second fourth]

theorem nearestValue_congr {first second third fourth : Nat} (up : 0 < first) (down : 0 < second)
    (upNext : 0 < third) (downNext : 0 < fourth)
    (same : (first / second : ℚ) = third / fourth) :
    nearestValue first second = nearestValue third fourth := by
  have leading : leadingExponent first second = leadingExponent third fourth := by
    obtain ⟨least, most⟩ := leadingExponent_bounds upNext downNext
    exact leadingExponent_eq up down (same ▸ least) (same ▸ most)
  have cross : first * fourth = third * second := by
    rw [div_eq_div_iff (by positivity) (by positivity)] at same
    exact_mod_cast same
  have quotient (place : Int) :
      nearestQuotient (first * upperFactor 2 (-place)) (second * upperFactor 2 place) =
        nearestQuotient (third * upperFactor 2 (-place)) (fourth * upperFactor 2 place) := by
    refine nearestQuotient_congr (Nat.mul_pos down (upperFactor_pos (by decide) _))
      (Nat.mul_pos downNext (upperFactor_pos (by decide) _)) ?_
    calc first * upperFactor 2 (-place) * (fourth * upperFactor 2 place)
      _ = first * fourth * (upperFactor 2 (-place) * upperFactor 2 place) := by ring
      _ = third * second * (upperFactor 2 (-place) * upperFactor 2 place) := by rw [cross]
      _ = third * upperFactor 2 (-place) * (second * upperFactor 2 place) := by ring
  simp only [nearestValue, leading, quotient]

/-! Values that are whole numbers. -/

def Binary64.quotient (value : Binary64) : ℚ :=
  value.numerator / value.denominator

theorem Binary64.quotient_eq (value : Binary64) :
    value.quotient = value.magnitude.significand * 2 ^ value.magnitude.exponent := by
  have power := upperFactor_quotient (by decide : 0 < 2) value.magnitude.exponent
  rw [Nat.cast_ofNat] at power
  rw [quotient, numerator, denominator, Nat.cast_mul, mul_div_assoc, power]

theorem Magnitude.near_self (magnitude : Magnitude) :
    magnitude.Near (magnitude.significand * 2 ^ magnitude.exponent) := by
  have position : (magnitude.significand * 2 ^ magnitude.exponent : ℚ) / 2 ^ magnitude.exponent =
      magnitude.significand := by
    field_simp
  have reach := magnitude.reach_bounds.1
  refine ⟨?_, ?_, fun _ => ?_⟩
  · rw [position]
    linarith
  · rw [position]
    linarith
  · rw [position]
    exact ⟨by linarith, by linarith⟩

theorem exists_normal {significand exponent : Nat} (least : binade ≤ significand)
    (most : significand < 2 * binade) (inRange : exponent < 2046) :
    ∃ value : Binary64, value.isNegative = false ∧ value.magnitude.significand = significand ∧
      value.magnitude.exponent = lowestExponent + exponent := by
  have base := binade_eq
  have bound : exponent * binade + significand < 2047 * binade := by
    rw [base] at least most ⊢
    omega
  have biased : (exponent * binade + significand) / binade = exponent + 1 := by
    rw [base] at least most ⊢
    omega
  have fraction : (exponent * binade + significand) % binade = significand - binade := by
    rw [base] at least most ⊢
    omega
  refine ⟨⟨false, ⟨_, bound⟩⟩, rfl, ?_, ?_⟩
  · simp [Binary64.magnitude, biased, fraction]
    omega
  · simp [Binary64.magnitude, biased]

theorem exists_scaled {count shift : Nat} (positive : 0 < count) (small : count < 2 ^ 53)
    (inRange : shift ≤ 953) :
    ∃ value : Binary64, value.isNegative = false ∧ value.quotient = (count * 2 ^ shift : Nat) := by
  have least := Nat.log2_self_le positive.ne'
  have most := Nat.lt_log2_self (n := count)
  have bits : count.log2 < 53 := (Nat.log2_lt positive.ne').mpr small
  obtain ⟨gap, level⟩ := Nat.exists_eq_add_of_le (Nat.le_of_lt_succ bits)
  have enough : binade ≤ count * 2 ^ gap := by
    rw [binade, level, Nat.pow_eq, Nat.pow_add]
    exact Nat.mul_le_mul_right _ least
  have total : 2 ^ (count.log2 + 1) * 2 ^ gap = 2 * 2 ^ 52 := by
    rw [← Nat.pow_add, level]
    ring
  have notMore : count * 2 ^ gap < 2 * binade := by
    rw [binade, Nat.pow_eq, ← total]
    exact Nat.mul_lt_mul_of_pos_right most (by positivity)
  obtain ⟨value, sign, significand, exponent⟩ :=
    @exists_normal _ (1022 + shift + count.log2) enough notMore (by omega)
  have place : lowestExponent + (1022 + shift + count.log2 : Nat) = (shift : Int) - gap := by
    rw [lowestExponent]
    omega
  refine ⟨value, sign, ?_⟩
  rw [value.quotient_eq, significand, exponent, place, zpow_sub₀ two_ne_zero, zpow_natCast,
    zpow_natCast]
  push_cast
  field_simp

theorem exists_whole {count shift : Nat} (positive : 0 < count) (small : count ≤ 2 ^ 53)
    (inRange : shift ≤ 900) :
    ∃ value : Binary64, rounded (count * 2 ^ shift) 1 = some value ∧
      value.quotient = (count * 2 ^ shift : Nat) := by
  obtain ⟨value, sign, quotient⟩ : ∃ value : Binary64, value.isNegative = false ∧
      value.quotient = (count * 2 ^ shift : Nat) := by
    rcases Nat.lt_or_eq_of_le small with less | rfl
    · exact exists_scaled positive less (by omega)
    · have whole := @exists_scaled 1 (53 + shift) (by decide) (by decide) (by omega)
      rwa [Nat.one_mul, Nat.pow_add] at whole
  have near := value.magnitude.near_self
  rw [← value.quotient_eq, quotient] at near
  have whole : 0 < count * 2 ^ shift := by positivity
  refine ⟨value, ?_, quotient⟩
  rw [rounded, if_neg whole.ne']
  exact nearestValue_of_near sign Nat.one_pos whole (by simpa using near)

/-! Decimals of at most 53 bits with a power of ten that is a value. -/

def exactPower : Nat := 22

theorem exists_tenTo {power : Nat} (small : power ≤ exactPower) :
    ∃ value, tenTo power = some value ∧ value.quotient = (10 ^ power : Nat) := by
  have fives : 5 ^ power ≤ 2 ^ 53 :=
    (Nat.pow_le_pow_right (by decide) small).trans (by decide)
  have split : 10 ^ power = 5 ^ power * 2 ^ power := by
    rw [← Nat.mul_pow]
  obtain ⟨value, found, quotient⟩ := @exists_whole (5 ^ power) power (by positivity) fives
    (small.trans (by decide))
  rw [← split] at found quotient
  exact ⟨value, found, quotient⟩

theorem Binary64.denominator_pos (value : Binary64) : 0 < value.denominator :=
  upperFactor_pos (by decide) _

theorem Binary64.numerator_pos {value : Binary64} (positive : 0 < value.quotient) :
    0 < value.numerator := by
  refine Nat.pos_of_ne_zero fun zero => ?_
  rw [quotient, zero, Nat.cast_zero, zero_div] at positive
  exact lt_irrefl _ positive

theorem rounded_of_pos {numerator : Nat} (positive : 0 < numerator) (denominator : Nat) :
    rounded numerator denominator = nearestValue numerator denominator :=
  if_neg positive.ne'

theorem rounded_zero (denominator : Nat) : rounded 0 denominator = some .zero :=
  if_pos rfl

theorem nearest_of_short {decimal : Scaled} (positive : 0 < decimal.digits)
    (short : decimal.digits ≤ 2 ^ 53) (small : decimal.exponent.natAbs ≤ exactPower) :
    nearest decimal = nearestValue (decimal.digits * upperFactor 10 decimal.exponent)
      (upperFactor 10 (-decimal.exponent)) := by
  have length : (Nat.toDigits 10 decimal.digits).length ≤ 16 :=
    (Nat.length_toDigits_le_iff (by decide) (by decide)).mpr (short.trans_lt (by norm_num))
  have order : -rangeLimit ≤ decimal.order ∧ decimal.order ≤ rangeLimit := by
    simp only [Scaled.order, rangeLimit, exactPower, Int.ofNat_eq_natCast] at small ⊢
    omega
  rw [nearest, if_neg (by omega), if_neg (by omega)]

section

variable {value other : Binary64} (positive : 0 < value.quotient) (positiveOther : 0 < other.quotient)
  {numerator denominator : Nat} (up : 0 < numerator) (down : 0 < denominator)
include positive positiveOther up down

theorem times_eq (product : value.quotient * other.quotient = numerator / denominator) :
    value.times other = nearestValue numerator denominator := by
  have whole := Nat.mul_pos (Binary64.numerator_pos positive) (Binary64.numerator_pos positiveOther)
  rw [Binary64.times, rounded_of_pos whole]
  refine nearestValue_congr whole (Nat.mul_pos value.denominator_pos other.denominator_pos) up down ?_
  rw [← product, Binary64.quotient, Binary64.quotient]
  push_cast
  rw [mul_div_mul_comm]

theorem quotientBy_eq (fraction : value.quotient / other.quotient = numerator / denominator) :
    value.quotientBy other = nearestValue numerator denominator := by
  have whole := Nat.mul_pos (Binary64.numerator_pos positive) other.denominator_pos
  rw [Binary64.quotientBy, rounded_of_pos whole]
  refine nearestValue_congr whole
    (Nat.mul_pos value.denominator_pos (Binary64.numerator_pos positiveOther)) up down ?_
  rw [← fraction, Binary64.quotient, Binary64.quotient]
  push_cast
  rw [div_div_div_eq]

end

/-- One multiplication or one division of exact values is the only step that rounds. -/
theorem stepwise_eq_nearest {decimal : Scaled} (short : decimal.digits ≤ 2 ^ 53)
    (small : decimal.exponent.natAbs ≤ exactPower) : stepwise decimal = nearest decimal := by
  obtain ⟨ten, foundTen, quotientTen⟩ := exists_tenTo small
  have inTable : decimal.exponent.natAbs ≤ largestPower := small.trans (by decide)
  have noRounds : (decimal.exponent.natAbs - 1) / largestPower = 0 :=
    Nat.div_eq_of_lt (by rw [exactPower] at small; rw [largestPower]; omega)
  have positiveTen : 0 < ten.quotient := by
    rw [quotientTen]
    positivity
  rcases Nat.eq_zero_or_pos decimal.digits with zero | positive
  · have none : Binary64.zero.numerator = 0 := by decide
    rw [nearest, if_pos (Or.inl zero), stepwise, zero, rounded_zero]
    split <;>
      simp [inTable, noRounds, overLargest, foundTen, Binary64.times, Binary64.quotientBy, none,
        rounded_zero]
  · obtain ⟨digits, foundDigits, quotient⟩ := @exists_whole decimal.digits 0 positive short (by decide)
    rw [Nat.pow_zero, Nat.mul_one] at foundDigits quotient
    have positiveDigits : 0 < digits.quotient := by
      rw [quotient]
      exact_mod_cast positive
    have up := Nat.mul_pos positive (upperFactor_pos (by decide : 0 < 10) decimal.exponent)
    have down := upperFactor_pos (by decide : 0 < 10) (-decimal.exponent)
    rw [nearest_of_short positive short small, stepwise, foundDigits]
    split
    · next whole =>
        obtain ⟨power, same⟩ := Int.eq_ofNat_of_zero_le whole
        have product : digits.quotient * ten.quotient =
            (decimal.digits * upperFactor 10 decimal.exponent : Nat) /
              upperFactor 10 (-decimal.exponent) := by
          rw [quotient, quotientTen, same]
          simp [upperFactor]
        simp [inTable, foundTen, times_eq positiveDigits positiveTen up down product]
    · next fraction =>
        obtain ⟨power, same⟩ : ∃ power : Nat, decimal.exponent = -power :=
          ⟨decimal.exponent.natAbs, by omega⟩
        have quotient : digits.quotient / ten.quotient =
            (decimal.digits * upperFactor 10 decimal.exponent : Nat) /
              upperFactor 10 (-decimal.exponent) := by
          rw [quotient, quotientTen, same]
          simp [upperFactor]
        simp [noRounds, overLargest, foundTen, quotientBy_eq positiveDigits positiveTen up down quotient]

-- With more digits both steps round, and the product may be out of range where the decimal is not.
example : stepwise ⟨31245270191439438, -15⟩ ≠ nearest ⟨31245270191439438, -15⟩ := by
  decide +kernel

example : stepwise ⟨17976931348623158, 292⟩ = none ∧
    (nearest ⟨17976931348623158, 292⟩).isSome := by
  decide +kernel

end RouteForge.Decimal

namespace RouteForge.Json

/-- A numeral that the reader gives the value nearest to it. -/
structure Numeral.IsShort (numeral : Numeral) : Prop where
  digits : numeral.decimal.digits ≤ 2 ^ 53
  power : numeral.decimal.exponent.natAbs ≤ Decimal.exactPower
  exponent : numeral.pastExponent = none

theorem le_foldl_digits (digits : List Char) (value : Nat) :
    value ≤ digits.foldl (fun value digit => 10 * value + (digit.toNat - '0'.toNat)) value := by
  induction digits generalizing value with
  | nil => exact Nat.le_refl value
  | cons digit digits ih =>
      exact Nat.le_trans (by omega) (ih (10 * value + (digit.toNat - '0'.toNat)))

theorem keepDigits_eq {digits : List Char} {value : Nat}
    (small : digits.foldl (fun value digit => 10 * value + (digit.toNat - '0'.toNat)) value ≤
      largestSignificand) :
    keepDigits value digits =
      (digits.foldl (fun value digit => 10 * value + (digit.toNat - '0'.toNat)) value, []) := by
  induction digits generalizing value with
  | nil => rfl
  | cons digit digits ih =>
      have next := le_foldl_digits digits (10 * value + (digit.toNat - '0'.toNat))
      rw [List.foldl_cons] at small ⊢
      rw [keepDigits, if_neg (by omega)]
      exact ih small

theorem Numeral.kept_eq {numeral : Numeral} (small : numeral.decimal.digits ≤ largestSignificand) :
    numeral.kept = numeral.decimal := by
  simp only [decimal, digitsValue, List.foldl_append] at small
  have whole := keepDigits_eq (Nat.le_trans (le_foldl_digits _ _) small)
  have fraction := keepDigits_eq small
  simp only [kept, whole, fraction, decimal, digitsValue, List.foldl_append, Int.ofNat_eq_natCast,
    List.length_nil, Nat.cast_zero, Nat.sub_zero, zero_add, sub_eq_add_neg]

theorem Numeral.IsShort.number?_eq {numeral : Numeral} (short : numeral.IsShort)
    (negative : Bool) : numeral.number? negative = numeral.nearest? negative := by
  have kept := numeral.kept_eq (short.digits.trans (by decide))
  have real : numeral.real? = Decimal.nearest numeral.decimal := by
    rw [real?, short.exponent, if_neg (by simp), kept,
      Decimal.stepwise_eq_nearest short.digits short.power]
  rw [number?, nearest?, real]

theorem Numeral.WellFormed.eq_of_text {numeral other : Numeral} (formed : numeral.WellFormed)
    (formedOther : other.WellFormed) (same : numeral.text = other.text) : numeral = other := by
  have stop : StopsAt continuesNumber [] := by simp [StopsAt]
  have first := numeral_spelled .unfinishedValue formed.spelled stop
  have second := numeral_spelled .unfinishedValue formedOther.spelled stop
  rw [same, second] at first
  exact (Prod.mk.inj (Except.ok.inj first)).1.symm

theorem sign_append_inj {negative other : Bool} {numeral printed : Numeral}
    (formed : numeral.WellFormed) (formedPrinted : printed.WellFormed)
    (same : sign negative ++ numeral.text = sign other ++ printed.text) :
    negative = other ∧ numeral.text = printed.text := by
  obtain ⟨first, rest, shape, digit⟩ := formed.spelled.start
  obtain ⟨second, tail, shapePrinted, digitPrinted⟩ := formedPrinted.spelled.start
  have signless {char : Char} (digit : char.isDigit = true) : char ≠ '-' := by
    rintro rfl
    exact absurd digit (by decide)
  rw [shape, shapePrinted] at same ⊢
  cases negative <;> cases other
  · exact ⟨rfl, same⟩
  · exact absurd (List.cons.inj same).1 (signless digit)
  · exact absurd (List.cons.inj same).1.symm (signless digitPrinted)
  · exact ⟨rfl, (List.cons.inj same).2⟩

/-- A number whose text is a short numeral is read back from it. -/
theorem survives_of_isShort {number : Number} {numeral : Numeral} {negative : Bool}
    (formed : numeral.WellFormed) (text : number.text.toList = sign negative ++ numeral.text)
    (short : numeral.IsShort) : number.Survives := by
  obtain ⟨other, digits, back⟩ := exists_readsBack number
  obtain ⟨printed, formedPrinted, rfl, value⟩ := back.numeral
  obtain ⟨rfl, same⟩ := sign_append_inj formed formedPrinted (text.symm.trans back.text)
  obtain rfl := formed.eq_of_text formedPrinted same
  rw [Number.Survives, text]
  exact .intro formed.spelled ((short.number?_eq negative).trans value)

end RouteForge.Json
