import RouteForge.Decimal.Binary64

/-!
The text of a binary64 value: the fewest decimal digits that read back to it, and of several such
decimals the nearest. A value is written positionally from `1e-5` up to, not including, `1e16`,
with at least one digit after the point, and otherwise with a signed exponent.
-/

namespace RouteForge.Decimal

/-- A magnitude measured in units of `10 ^ unit`, as a quotient of naturals, four times over so
that the ends of its rounding interval are whole. -/
structure Measured where
  lower : Nat
  value : Nat
  upper : Nat
  divisor : Nat
  closed : Bool

def measure (magnitude : Magnitude) (unit : Int) : Measured :=
  let scale := upperFactor 2 magnitude.exponent * upperFactor 10 (-unit)
  let significand := 4 * magnitude.significand
  { lower := (significand - if magnitude.atPower then 1 else 2) * scale
    value := significand * scale
    upper := (significand + 2) * scale
    divisor := 4 * (upperFactor 2 (-magnitude.exponent) * upperFactor 10 unit)
    closed := magnitude.significand % 2 == 0 }

def Measured.readsBack (measured : Measured) (count : Nat) : Bool :=
  let position := count * measured.divisor
  if measured.closed then
    decide (measured.lower ≤ position) && decide (position ≤ measured.upper)
  else
    decide (measured.lower < position) && decide (position < measured.upper)

def Measured.nearest? (measured : Measured) : Option Nat :=
  let below := measured.value / measured.divisor
  let above := below + 1
  match measured.readsBack below, measured.readsBack above with
  | true, false => some below
  | false, true => some above
  | false, false => none
  | true, true =>
      match compare (2 * measured.value) ((below + above) * measured.divisor) with
      | .lt => some below
      | .gt => some above
      | .eq => some (if below % 2 = 0 then below else above)

/-- Tries ever finer units and stops at the first with a decimal that reads back. -/
def searchUnits (magnitude : Magnitude) : Nat → Int → Option Scaled
  | 0, _ => none
  | fuel + 1, unit =>
      match (measure magnitude unit).nearest? with
      | some count => some ⟨count, unit⟩
      | none => searchUnits magnitude fuel (unit - 1)

def coarsestUnit (magnitude : Magnitude) : Int :=
  (Int.ofNat magnitude.significand.log2 + 1 + magnitude.exponent) * 30103 / 100000 + 1

def exact (magnitude : Magnitude) : Scaled :=
  if magnitude.exponent < 0 then
    ⟨magnitude.significand * Nat.pow 5 magnitude.exponent.natAbs, magnitude.exponent⟩
  else
    ⟨magnitude.significand * Nat.pow 2 magnitude.exponent.natAbs, 0⟩

def shortest (magnitude : Magnitude) : Scaled :=
  (searchUnits magnitude 24 (coarsestUnit magnitude)).getD (exact magnitude)

def firstPositional : Int := -5

def firstBeyondPositional : Int := 16

def dropTrailingZeros (digits : List Char) : List Char :=
  (digits.reverse.dropWhile (· = '0')).reverse

def layout (digits : List Char) (leading : Int) : List Char :=
  if firstPositional ≤ leading ∧ leading < firstBeyondPositional then
    if leading < 0 then
      '0' :: '.' :: List.replicate (leading.natAbs - 1) '0' ++ digits
    else
      let whole := leading.toNat + 1
      let fraction := digits.drop whole
      digits.take whole ++ List.replicate (whole - digits.length) '0' ++
        '.' :: (if fraction.isEmpty then ['0'] else fraction)
  else
    let fraction := digits.drop 1
    digits.take 1 ++ (if fraction.isEmpty then [] else '.' :: fraction) ++
      'e' :: (if leading < 0 then '-' else '+') :: Nat.toDigits 10 leading.natAbs

def text (value : Binary64) : List Char :=
  let sign := if value.isNegative then ['-'] else []
  let magnitude := value.magnitude
  if magnitude.significand = 0 then
    sign ++ ['0', '.', '0']
  else
    let decimal := shortest magnitude
    sign ++ layout (dropTrailingZeros (Nat.toDigits 10 decimal.digits)) (decimal.order - 1)

end RouteForge.Decimal
