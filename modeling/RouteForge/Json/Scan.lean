import RouteForge.Json.Fault

/-!
The scanners for the tokens of a document: blanks, words, numbers and strings. A scanner takes the
text that is left and gives back what it read together with the text after it.
-/

namespace RouteForge.Json

abbrev Reader (α : Type) := List Char → Except Fault (α × List Char)

def isSpace (char : Char) : Bool :=
  char = ' ' || char = '\n' || char = '\t' || char = '\r'

def skipSpace (input : List Char) : List Char :=
  input.dropWhile isSpace

def word : List Char → List Char → Except Fault (List Char)
  | [], input => .ok input
  | _ :: _, [] => .error (.before .unfinishedValue [])
  | letter :: letters, char :: rest =>
      if char = letter then word letters rest
      else .error (.after .misspelledWord (char :: rest))

/-! A number is read in two steps: its digits, then its value. -/

structure Exponent where
  negative : Bool
  digits : List Char

structure Numeral where
  whole : List Char
  fraction : Option (List Char)
  exponent : Option Exponent

def wholeDigits (atEnd : Cause) : Reader (List Char)
  | [] => .error (.before atEnd [])
  | '0' :: rest =>
      if (rest.head?.map Char.isDigit).getD false then .error (.after .malformedNumber rest)
      else .ok (['0'], rest)
  | char :: rest =>
      if char.isDigit then
        .ok (char :: rest.takeWhile Char.isDigit, rest.dropWhile Char.isDigit)
      else
        .error (.after .malformedNumber (char :: rest))

def fractionDigits (atEnd : Cause) (input : List Char) :
    Except Fault (List Char × List Char) :=
  let digits := input.takeWhile Char.isDigit
  let rest := input.dropWhile Char.isDigit
  if digits.isEmpty then
    .error (.after (if rest.isEmpty then atEnd else .malformedNumber) rest)
  else
    .ok (digits, rest)

def exponentDigits (atEnd : Cause) (negative : Bool) : Reader Exponent
  | [] => .error (.before atEnd [])
  | char :: rest =>
      if char.isDigit then
        .ok (⟨negative, char :: rest.takeWhile Char.isDigit⟩, rest.dropWhile Char.isDigit)
      else
        .error (.after .malformedNumber (char :: rest))

def exponentPart (atEnd : Cause) : Reader Exponent
  | '+' :: rest => exponentDigits atEnd false rest
  | '-' :: rest => exponentDigits atEnd true rest
  | input => exponentDigits atEnd false input

def startsExponent : List Char → Bool
  | char :: _ => char = 'e' || char = 'E'
  | [] => false

def optionalExponent (atEnd : Cause) (input : List Char) :
    Except Fault (Option Exponent × List Char) :=
  if startsExponent input then do
    let (exponent, rest) ← exponentPart atEnd (input.drop 1)
    .ok (some exponent, rest)
  else
    .ok (none, input)

/-- The digits of a number after its sign. `atEnd` names the fault of a text that ends where a
digit is due. -/
def numeral (atEnd : Cause) (input : List Char) : Except Fault (Numeral × List Char) := do
  let (whole, rest) ← wholeDigits atEnd input
  match rest with
  | '.' :: afterPoint =>
      let (fraction, rest) ← fractionDigits atEnd afterPoint
      let (exponent, rest) ← optionalExponent atEnd rest
      .ok (⟨whole, some fraction, exponent⟩, rest)
  | _ =>
      let (exponent, rest) ← optionalExponent atEnd rest
      .ok (⟨whole, none, exponent⟩, rest)

def digitsValue (digits : List Char) : Nat :=
  digits.foldl (fun value digit => 10 * value + (digit.toNat - '0'.toNat)) 0

/-! A number keeps the digits of which the significand stays below a bound. Digits before the point
that are not kept raise its exponent by one each, those after the point have no part in it. -/

def largestSignificand : Nat := Nat.pow 2 64 - 1

/-- The value of the digits up to the first that is not kept, and the digits from there on. -/
def keepDigits (value : Nat) : List Char → Nat × List Char
  | [] => (value, [])
  | digit :: rest =>
      let next := 10 * value + (digit.toNat - '0'.toNat)
      if largestSignificand < next then (value, digit :: rest) else keepDigits next rest

def Exponent.value (exponent : Exponent) : Int :=
  if exponent.negative then -Int.ofNat (digitsValue exponent.digits)
  else Int.ofNat (digitsValue exponent.digits)

def exponentValue : Option Exponent → Int
  | none => 0
  | some exponent => exponent.value

def Numeral.kept (numeral : Numeral) : Decimal.Scaled :=
  let fraction := numeral.fraction.getD []
  let (whole, wholeLeft) := keepDigits 0 numeral.whole
  let (significand, fractionLeft) := keepDigits whole fraction
  ⟨significand, exponentValue numeral.exponent +
    (Int.ofNat wholeLeft.length - Int.ofNat (fraction.length - fractionLeft.length))⟩

def largestExponent : Nat := Nat.pow 2 31 - 1

def digitsPastLargest (value : Nat) : List Char → Option (List Char)
  | [] => none
  | digit :: rest =>
      let next := 10 * value + (digit.toNat - '0'.toNat)
      if largestExponent < next then some rest else digitsPastLargest next rest

/-- The digits of the exponent after the one with which it is past all bounds. -/
def Numeral.pastExponent (numeral : Numeral) : Option (List Char) :=
  numeral.exponent.bind fun exponent => digitsPastLargest 0 exponent.digits

def Numeral.real? (numeral : Numeral) : Option Decimal.Binary64 :=
  if numeral.pastExponent.isSome then
    if numeral.kept.digits ≠ 0 ∧ 0 ≤ exponentValue numeral.exponent then none else some .zero
  else
    Decimal.stepwise numeral.kept

def signed (negative : Bool) (value : Decimal.Binary64) : Number :=
  .real (if negative then value.negate else value)

def Numeral.isWhole (numeral : Numeral) : Bool :=
  numeral.fraction.isNone && numeral.exponent.isNone

/-- A number without point and exponent is an integer where it fits, and minus zero a real. -/
def Numeral.integerOr (numeral : Numeral) (negative : Bool) (real : Option Decimal.Binary64) :
    Option Number :=
  let whole := Int.ofNat (digitsValue numeral.whole)
  let value := if negative then -whole else whole
  if inRange : fits value = true then
    if numeral.isWhole && !(negative && value == 0) then some (.integer value inRange)
    else real.map (signed negative)
  else
    real.map (signed negative)

def Numeral.number? (numeral : Numeral) (negative : Bool) : Option Number :=
  numeral.integerOr negative numeral.real?

/-- A number out of range is one before all its digits are read where its exponent is at fault. -/
def Numeral.value (numeral : Numeral) (negative : Bool) (rest : List Char) :
    Except Fault (Number × List Char) :=
  match numeral.number? negative with
  | some number => .ok (number, rest)
  | none => .error (.before .numberOutOfRange (numeral.pastExponent.getD [] ++ rest))

def number (negative : Bool) (input : List Char) : Except Fault (Number × List Char) := do
  let (numeral, rest) ← numeral .unfinishedValue input
  numeral.value negative rest

/-! Strings. -/

def hexDigit? (char : Char) : Option Nat :=
  if '0' ≤ char ∧ char ≤ '9' then some (char.toNat - '0'.toNat)
  else if 'a' ≤ char ∧ char ≤ 'f' then some (char.toNat - 'a'.toNat + 10)
  else if 'A' ≤ char ∧ char ≤ 'F' then some (char.toNat - 'A'.toNat + 10)
  else none

/-- The four hexadecimal digits of an escape. Four bytes count as read before they are looked at. -/
def hexUnit (input : List Char) : Except Fault (Nat × List Char) :=
  let digits := (input.take 4).filterMap hexDigit?
  if digits.length = 4 then
    .ok (digits.foldl (fun value digit => 16 * value + digit) 0, input.drop 4)
  else if Text.byteCount input < 4 then
    .error (.before .unfinishedString [])
  else
    .error ⟨.unknownEscape, input, 4⟩

def isLeadingUnit (unit : Nat) : Bool :=
  decide (0xD800 ≤ unit) && decide (unit ≤ 0xDBFF)

def isTrailingUnit (unit : Nat) : Bool :=
  decide (0xDC00 ≤ unit) && decide (unit ≤ 0xDFFF)

def expectAfterUnit (char : Char) : List Char → Except Fault (List Char)
  | [] => .error (.before .unfinishedString [])
  | next :: rest =>
      if next = char then .ok rest else .error (.after .unfinishedSurrogate (next :: rest))

def escapedUnit (input : List Char) : Except Fault (Char × List Char) := do
  let (unit, rest) ← hexUnit input
  if isTrailingUnit unit then
    .error (.before .loneSurrogate rest)
  else if isLeadingUnit unit then
    let rest ← expectAfterUnit '\\' rest
    let rest ← expectAfterUnit 'u' rest
    let (second, rest) ← hexUnit rest
    if isTrailingUnit second then
      .ok (Char.ofNat ((unit - 0xD800) * 0x400 + (second - 0xDC00) + 0x10000), rest)
    else
      .error (.before .loneSurrogate rest)
  else
    .ok (Char.ofNat unit, rest)

def shortEscape? : Char → Option Char
  | '"' => some '"'
  | '\\' => some '\\'
  | '/' => some '/'
  | 'b' => some '\x08'
  | 'f' => some '\x0c'
  | 'n' => some '\n'
  | 'r' => some '\r'
  | 't' => some '\t'
  | _ => none

def escaped : Reader Char
  | [] => .error (.before .unfinishedString [])
  | 'u' :: rest => escapedUnit rest
  | char :: rest =>
      match shortEscape? char with
      | some meant => .ok (meant, rest)
      | none => .error (.after .unknownEscape (char :: rest))

def isControl (char : Char) : Bool :=
  decide (char.toNat < 0x20)

/-- Reads a string up to its closing quotation mark; `read` holds what was read, last first. Each
step reads a character, so the text itself bounds the number of steps. -/
def stringFrom : List Char → List Char → Reader String
  | _, _, [] => .error (.before .unfinishedString [])
  | _, read, '"' :: rest => .ok (String.ofList read.reverse, rest)
  | [], _, input => .error (.before .unfinishedString input)
  | _ :: bound, read, '\\' :: rest => do
      let (char, rest) ← escaped rest
      stringFrom bound (char :: read) rest
  | _ :: bound, read, char :: rest =>
      if isControl char then .error (.after .controlCharacter (char :: rest))
      else stringFrom bound (char :: read) rest

def string : Reader String := fun input =>
  stringFrom input [] input

end RouteForge.Json
