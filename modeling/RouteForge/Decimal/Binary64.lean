/-!
Finite binary64 values and their arithmetic. A value without its sign is a significand times a power
of two. An operation rounds its exact result to the nearest value, ties going to the even
significand, and has no result past the largest value. A decimal is read by such operations: its
digits are rounded first, then the product or the quotient with a power of ten, so that the value
read need not be the one nearest to the decimal.
-/

namespace RouteForge.Decimal

structure Scaled where
  digits : Nat
  exponent : Int
  deriving DecidableEq, Repr

def Scaled.order (decimal : Scaled) : Int :=
  Int.ofNat (Nat.toDigits 10 decimal.digits).length + decimal.exponent

/-- The magnitude `significand * 2 ^ exponent`; at a power of two the value below is nearer than
the value above. -/
structure Magnitude where
  significand : Nat
  exponent : Int
  atPower : Bool

def binade : Nat := Nat.pow 2 52

def lowestExponent : Int := -1074

/-- A finite value: its sign, and its bit pattern without the sign, which counts the magnitudes
from zero up. -/
structure Binary64 where
  isNegative : Bool
  rank : Fin (2047 * binade)
  deriving DecidableEq, Repr

def Binary64.magnitude (value : Binary64) : Magnitude :=
  let biased := value.rank.val / binade
  let fraction := value.rank.val % binade
  if biased = 0 then
    ⟨fraction, lowestExponent, false⟩
  else
    ⟨binade + fraction, lowestExponent + Int.ofNat (biased - 1), fraction == 0 && decide (1 < biased)⟩

def Binary64.zero : Binary64 := ⟨false, ⟨0, by decide⟩⟩

def Binary64.negate (value : Binary64) : Binary64 :=
  { value with isNegative := !value.isNegative }

def upperFactor (base : Nat) (exponent : Int) : Nat :=
  Nat.pow base exponent.toNat

def leadingExponent (numerator denominator : Nat) : Int :=
  let guess := Int.ofNat numerator.log2 - Int.ofNat denominator.log2
  if denominator * upperFactor 2 guess ≤ numerator * upperFactor 2 (-guess) then guess
  else guess - 1

def nearestQuotient (numerator denominator : Nat) : Nat :=
  let below := numerator / denominator
  match compare (2 * (numerator % denominator)) denominator with
  | .lt => below
  | .gt => below + 1
  | .eq => if below % 2 = 0 then below else below + 1

/-- The value nearest to a quotient. A significand that is rounded up to the next power of two
counts into the next exponent by itself. -/
def nearestValue (numerator denominator : Nat) : Option Binary64 :=
  let exponent := max lowestExponent (leadingExponent numerator denominator - 52)
  let significand := nearestQuotient (numerator * upperFactor 2 (-exponent))
    (denominator * upperFactor 2 exponent)
  let rank := (exponent - lowestExponent).toNat * binade + significand
  if inRange : rank < 2047 * binade then some ⟨false, ⟨rank, inRange⟩⟩ else none

/-! Arithmetic on values that are not negative. -/

def rounded (numerator denominator : Nat) : Option Binary64 :=
  if numerator = 0 then some .zero else nearestValue numerator denominator

namespace Binary64

def numerator (value : Binary64) : Nat :=
  value.magnitude.significand * upperFactor 2 value.magnitude.exponent

def denominator (value : Binary64) : Nat :=
  upperFactor 2 (-value.magnitude.exponent)

def times (value factor : Binary64) : Option Binary64 :=
  rounded (value.numerator * factor.numerator) (value.denominator * factor.denominator)

def quotientBy (value divisor : Binary64) : Option Binary64 :=
  rounded (value.numerator * divisor.denominator) (value.denominator * divisor.numerator)

end Binary64

/-! Reading a decimal. -/

def largestPower : Nat := 308

def tenTo (power : Nat) : Option Binary64 :=
  rounded (Nat.pow 10 power) 1

/-- Divides by the largest power of ten so many times, or until nothing is left. -/
def overLargest : Nat → Binary64 → Option Binary64
  | 0, value => some value
  | rounds + 1, value =>
      if value = .zero then
        some value
      else do
        let quotient ← value.quotientBy (← tenTo largestPower)
        overLargest rounds quotient

def stepwise (decimal : Scaled) : Option Binary64 := do
  let digits ← rounded decimal.digits 1
  let power := decimal.exponent.natAbs
  if 0 ≤ decimal.exponent then
    if power ≤ largestPower then digits.times (← tenTo power)
    else if digits = .zero then some digits
    else none
  else
    let rounds := (power - 1) / largestPower
    let left ← overLargest rounds digits
    left.quotientBy (← tenTo (power - rounds * largestPower))

end RouteForge.Decimal
