import RouteForge.Json.Scan
import RouteForge.Proofs.ShortestDecimal

/-!
The texts of numbers. Numerals are read as they are spelled; what value the reader gives them is its
own matter. A printed number is the shortest numeral that stands for it when rounded once.
-/

namespace RouteForge.Json

/-! Numerals. -/

def StopsAt (stops : Char → Bool) (rest : List Char) : Prop :=
  ∀ char ∈ rest.head?, stops char = false

theorem StopsAt.append {stops : Char → Bool} {first rest : List Char} (stop : StopsAt stops first)
    (after : StopsAt stops rest) : StopsAt stops (first ++ rest) := by
  cases first with
  | nil => exact after
  | cons char first => exact stop

theorem takeWhile_append_of_stopsAt {continues : Char → Bool} {taken rest : List Char}
    (all : ∀ char ∈ taken, continues char = true) (stop : StopsAt continues rest) :
    (taken ++ rest).takeWhile continues = taken ∧ (taken ++ rest).dropWhile continues = rest := by
  induction taken with
  | nil =>
      cases rest with
      | nil => simp
      | cons char rest =>
          have stopped := stop char rfl
          simp [stopped]
  | cons char taken ih =>
      rw [List.forall_mem_cons] at all
      obtain ⟨first, others⟩ := all
      simp [first, ih others]

/-- The signs of an exponent; a plus sign may be left out. -/
def exponentSigns (negative : Bool) : List (List Char) :=
  if negative then [['-']] else [['+'], []]

def Exponent.text (exponent : Exponent) : List Char :=
  'e' :: (if exponent.negative then '-' else '+') :: exponent.digits

def fractionText : Option (List Char) → List Char
  | none => []
  | some digits => '.' :: digits

def exponentText : Option Exponent → List Char
  | none => []
  | some exponent => exponent.text

def Numeral.text (numeral : Numeral) : List Char :=
  numeral.whole ++ fractionText numeral.fraction ++ exponentText numeral.exponent

inductive SpellsExponent : Option Exponent → List Char → Prop
  | absent : SpellsExponent none []
  | given {exponent : Exponent} {letter : Char} {sign : List Char} (starts : letter ∈ ['e', 'E'])
      (signed : sign ∈ exponentSigns exponent.negative) :
      SpellsExponent (some exponent) (letter :: (sign ++ exponent.digits))

structure IsDigits (digits : List Char) : Prop where
  some : digits ≠ []
  all : ∀ char ∈ digits, char.isDigit = true

theorem IsDigits.head {digits rest tail : List Char} {first : Char} (formed : IsDigits digits)
    (same : digits ++ rest = first :: tail) : first.isDigit = true := by
  obtain ⟨digit, others, rfl⟩ := List.exists_cons_of_ne_nil formed.some
  obtain rfl : digit = first := (List.cons.inj same).1
  exact formed.all digit List.mem_cons_self

/-- Digits before the point do not start with a zero, but for a zero alone. -/
structure Numeral.WellFormed (numeral : Numeral) : Prop where
  whole : IsDigits numeral.whole
  start : numeral.whole = ['0'] ∨ numeral.whole.head? ≠ some '0'
  fraction : ∀ digits ∈ numeral.fraction, IsDigits digits
  exponent : ∀ exponent ∈ numeral.exponent, IsDigits exponent.digits

inductive Numeral.IsSpelledBy (numeral : Numeral) : List Char → Prop
  | intro {tail : List Char} (formed : numeral.WellFormed)
      (exponent : SpellsExponent numeral.exponent tail) :
      IsSpelledBy numeral (numeral.whole ++ fractionText numeral.fraction ++ tail)

theorem Numeral.WellFormed.spelled {numeral : Numeral} (formed : numeral.WellFormed) :
    numeral.IsSpelledBy numeral.text := by
  refine .intro formed ?_
  cases numeral.exponent with
  | none => exact .absent
  | some exponent =>
      have signed : [if exponent.negative then '-' else '+'] ∈ exponentSigns exponent.negative := by
        cases exponent.negative <;> decide
      exact .given (by decide : 'e' ∈ ['e', 'E']) signed

def continuesNumber (char : Char) : Bool :=
  char.isDigit || char = '.' || char = 'e' || char = 'E'

theorem stopsAt_isDigit {rest : List Char} (stop : StopsAt continuesNumber rest) :
    StopsAt Char.isDigit rest := by
  intro char next
  have stopped := stop char next
  simp only [continuesNumber, Bool.or_eq_false_iff] at stopped
  exact stopped.1.1.1

theorem wholeDigits_cons (atEnd : Cause) {first : Char} {rest : List Char} (nonzero : first ≠ '0')
    (digit : first.isDigit = true) :
    wholeDigits atEnd (first :: rest) =
      .ok (first :: rest.takeWhile Char.isDigit, rest.dropWhile Char.isDigit) := by
  rw [wholeDigits.eq_def]
  split
  · simp_all
  · simp_all
  · next same =>
      obtain ⟨rfl, rfl⟩ := List.cons.inj same
      rw [if_pos digit]

theorem wholeDigits_text (atEnd : Cause) {whole rest : List Char} (digits : IsDigits whole)
    (start : whole = ['0'] ∨ whole.head? ≠ some '0') (stop : StopsAt Char.isDigit rest) :
    wholeDigits atEnd (whole ++ rest) = .ok (whole, rest) := by
  rcases start with rfl | start
  · have stopped : (rest.head?.map Char.isDigit).getD false = false := by
      cases rest with
      | nil => rfl
      | cons char rest => exact stop char rfl
    simp [wholeDigits, stopped]
  · cases whole with
    | nil => exact absurd rfl digits.some
    | cons first others =>
        have all := List.forall_mem_cons.mp digits.all
        obtain ⟨taken, left⟩ := takeWhile_append_of_stopsAt all.2 stop
        have nonzero : first ≠ '0' := by
          intro zero
          exact start (by rw [zero]; rfl)
        rw [List.cons_append, wholeDigits_cons atEnd nonzero all.1, taken, left]

theorem fractionDigits_text (atEnd : Cause) {fraction rest : List Char}
    (digits : IsDigits fraction) (stop : StopsAt Char.isDigit rest) :
    fractionDigits atEnd (fraction ++ rest) = .ok (fraction, rest) := by
  obtain ⟨taken, left⟩ := takeWhile_append_of_stopsAt digits.all stop
  simp [fractionDigits, taken, left, digits.some]

theorem exponentDigits_text (atEnd : Cause) (negative : Bool) {digits rest : List Char}
    (formed : IsDigits digits) (stop : StopsAt Char.isDigit rest) :
    exponentDigits atEnd negative (digits ++ rest) = .ok (⟨negative, digits⟩, rest) := by
  cases digits with
  | nil => exact absurd rfl formed.some
  | cons first others =>
      have all := List.forall_mem_cons.mp formed.all
      obtain ⟨taken, left⟩ := takeWhile_append_of_stopsAt all.2 stop
      simp [exponentDigits, all.1, taken, left]

theorem exponentPart_signed (atEnd : Cause) {negative : Bool} {sign digits rest : List Char}
    (signed : sign ∈ exponentSigns negative) (formed : IsDigits digits)
    (stop : StopsAt Char.isDigit rest) :
    exponentPart atEnd (sign ++ (digits ++ rest)) = .ok (⟨negative, digits⟩, rest) := by
  have read := exponentDigits_text atEnd negative formed stop
  cases negative with
  | true =>
      obtain rfl := List.mem_singleton.mp signed
      exact read
  | false =>
      obtain rfl | rfl : sign = ['+'] ∨ sign = [] := by simpa [exponentSigns] using signed
      · exact read
      · rw [List.nil_append, exponentPart.eq_def]
        split
        · next same => exact absurd (formed.head same) (by decide)
        · next same => exact absurd (formed.head same) (by decide)
        · exact read

theorem optionalExponent_spelled (atEnd : Cause) {exponent : Option Exponent}
    {tail rest : List Char} (spelled : SpellsExponent exponent tail)
    (digits : ∀ given ∈ exponent, IsDigits given.digits) (stop : StopsAt continuesNumber rest) :
    optionalExponent atEnd (tail ++ rest) = .ok (exponent, rest) := by
  cases spelled with
  | absent =>
      have absent : startsExponent rest = false := by
        cases rest with
        | nil => rfl
        | cons char rest =>
            have stopped := stop char rfl
            simp only [continuesNumber, Bool.or_eq_false_iff] at stopped
            simp [startsExponent, stopped]
      simp [optionalExponent, absent]
  | @given exponent letter sign starts signed =>
      have read := exponentPart_signed atEnd signed (digits exponent rfl) (stopsAt_isDigit stop)
      have begun : startsExponent (letter :: (sign ++ (exponent.digits ++ rest))) = true := by
        simpa [startsExponent] using starts
      simp [optionalExponent, begun, read, bind, Except.bind]

/-- The digits before a point or an exponent end where these start. -/
theorem SpellsExponent.stopsAt {exponent : Option Exponent} {tail rest : List Char}
    (spelled : SpellsExponent exponent tail) (stop : StopsAt continuesNumber rest) :
    StopsAt (fun char => char.isDigit || char = '.') (tail ++ rest) := by
  intro char next
  cases spelled with
  | absent =>
      have stopped := stop char next
      simp only [continuesNumber, Bool.or_eq_false_iff] at stopped ⊢
      exact stopped.1.1
  | @given exponent letter sign starts signed =>
      obtain rfl : letter = char := Option.some.inj next
      obtain rfl | rfl : letter = 'e' ∨ letter = 'E' := by simpa using starts
      all_goals rfl

theorem numeral_spelled (atEnd : Cause) {numeral : Numeral} {text rest : List Char}
    (spelled : numeral.IsSpelledBy text) (stop : StopsAt continuesNumber rest) :
    Json.numeral atEnd (text ++ rest) = .ok (numeral, rest) := by
  obtain ⟨whole, fraction, exponent⟩ := numeral
  cases spelled with
  | @intro tail formed spelledExponent =>
      have after := optionalExponent_spelled atEnd spelledExponent formed.exponent stop
      have stopped := spelledExponent.stopsAt stop
      have afterDigits : StopsAt Char.isDigit (tail ++ rest) :=
        fun char next => (Bool.or_eq_false_iff.mp (stopped char next)).1
      cases fraction with
      | none =>
          have first := wholeDigits_text atEnd formed.whole formed.start afterDigits
          simp only [fractionText, List.append_nil, List.append_assoc, Json.numeral, first, bind,
            Except.bind]
          split
          · next tail same =>
              have point := stopped '.' (by rw [same]; rfl)
              exact absurd point (by decide)
          · rw [after]
      | some digits =>
          have point : StopsAt Char.isDigit ('.' :: (digits ++ (tail ++ rest))) := by
            intro char next
            obtain rfl : '.' = char := Option.some.inj next
            rfl
          have first := wholeDigits_text atEnd formed.whole formed.start point
          have second := fractionDigits_text atEnd (formed.fraction digits rfl) afterDigits
          simp only [fractionText, List.append_assoc, List.cons_append, Json.numeral, bind,
            Except.bind]
          simp only [first, second, after]

/-! Digits of naturals. -/

theorem digitsValue_eq (digits : List Char) : digitsValue digits = Nat.ofDigitChars 10 digits 0 := by
  rw [Nat.ofDigitChars_eq_foldl]
  rfl

theorem digitsValue_toDigits (value : Nat) : digitsValue (Nat.toDigits 10 value) = value := by
  rw [digitsValue_eq, Nat.ofDigitChars_ten_toDigits]

theorem isDigits_toDigits (value : Nat) : IsDigits (Nat.toDigits 10 value) :=
  ⟨Nat.toDigits_ne_nil, fun _ member => Nat.isDigit_of_mem_toDigits (by decide) (by decide) member⟩

theorem digitChar_ne_zero : ∀ value < 10, value ≠ 0 → Nat.digitChar value ≠ '0' := by
  decide

theorem toDigits_start {value : Nat} (nonzero : value ≠ 0) :
    (Nat.toDigits 10 value).head? ≠ some '0' := by
  induction value using Nat.strongRecOn with
  | ind value ih =>
      by_cases single : value < 10
      · rw [Nat.toDigits_of_lt_base single]
        intro zero
        exact digitChar_ne_zero value single nonzero (Option.some.inj zero)
      · have start := ih (value / 10) (by omega) (by omega)
        rw [Nat.toDigits_of_base_le (by decide) (by omega), List.head?_append]
        cases first : (Nat.toDigits 10 (value / 10)).head? with
        | none => exact absurd (List.head?_eq_none_iff.mp first) Nat.toDigits_ne_nil
        | some char =>
            rw [first] at start
            exact start

theorem dropTrailingZeros_append (digits : List Char) :
    ∃ count, digits = Decimal.dropTrailingZeros digits ++ List.replicate count '0' := by
  have zeros : ∀ char ∈ digits.reverse.takeWhile (· = '0'), char = '0' := by
    intro char member
    exact of_decide_eq_true (List.all_eq_true.mp List.all_takeWhile char member)
  have parts : digits.reverse.takeWhile (· = '0') ++ digits.reverse.dropWhile (· = '0') =
      digits.reverse := List.takeWhile_append_dropWhile
  refine ⟨(digits.reverse.takeWhile (· = '0')).length, ?_⟩
  rw [List.eq_replicate_of_mem zeros] at parts
  rw [Decimal.dropTrailingZeros, ← List.reverse_inj, List.reverse_append, List.reverse_reverse,
    List.reverse_replicate, parts]

/-! Numerals of decimals. -/

def Numeral.decimal (numeral : Numeral) : Decimal.Scaled :=
  ⟨digitsValue (numeral.whole ++ numeral.fraction.getD []),
    exponentValue numeral.exponent - (numeral.fraction.getD []).length⟩

/-- A numeral that spells digits of which the first has the given decimal exponent. -/
structure Spells (numeral : Numeral) (digits : List Char) (leading : Int) : Prop where
  formed : numeral.WellFormed
  notWhole : numeral.isWhole = false
  value : numeral.decimal.value = digitsValue digits * 10 ^ (leading + 1 - digits.length)

variable {digits : List Char} {leading : Int}

theorem ofDigitChars_append_zero (digits : List Char) :
    digitsValue (digits ++ ['0']) = 10 * digitsValue digits := by
  simp [digitsValue_eq, Nat.ofDigitChars_append, Nat.ofDigitChars_cons]

theorem spells_below_one (formed : IsDigits digits) (below : leading < 0) :
    Spells ⟨['0'], some (List.replicate (leading.natAbs - 1) '0' ++ digits), none⟩ digits
      leading := by
  have zero : IsDigits ['0'] := ⟨by simp, by simp⟩
  refine ⟨⟨zero, Or.inl rfl, ?_, by simp⟩, rfl, ?_⟩
  · intro fraction given
    obtain rfl := Option.some.inj given
    refine ⟨by simp [formed.some], ?_⟩
    intro char member
    rcases List.mem_append.mp member with zeros | member
    · rw [List.eq_of_mem_replicate zeros]
      rfl
    · exact formed.all char member
  · have value : digitsValue (['0'] ++ (List.replicate (leading.natAbs - 1) '0' ++ digits)) =
        digitsValue digits := by
      simp [digitsValue_eq, Nat.ofDigitChars_append, Nat.ofDigitChars_cons]
    simp only [Decimal.Scaled.value, Numeral.decimal, Option.getD_some, value, exponentValue]
    congr 2
    simp
    omega

theorem IsDigits.take {count : Nat} (formed : IsDigits digits) :
    IsDigits (digits.take (count + 1)) :=
  ⟨by simp [formed.some], fun char member => formed.all char (List.mem_of_mem_take member)⟩

theorem head?_take_ne {count : Nat} (start : digits.head? ≠ some '0') :
    (digits.take (count + 1)).head? ≠ some '0' := by
  rw [List.head?_take, if_neg (by omega)]
  exact start

theorem spells_positional (formed : IsDigits digits) (start : digits.head? ≠ some '0') {count : Nat}
    (inside : count + 1 < digits.length) :
    Spells ⟨digits.take (count + 1), some (digits.drop (count + 1)), none⟩ digits count := by
  refine ⟨⟨formed.take, Or.inr (head?_take_ne start), ?_, by simp⟩, rfl, ?_⟩
  · intro fraction given
    obtain rfl := Option.some.inj given
    exact ⟨by simpa using inside, fun char member => formed.all char (List.mem_of_mem_drop member)⟩
  · simp only [Decimal.Scaled.value, Numeral.decimal, Option.getD_some, List.take_append_drop,
      exponentValue]
    congr 2
    simp
    omega

/-- Zeros fill up the digits to the point, and one more stands behind it. -/
theorem spells_padded (formed : IsDigits digits) (start : digits.head? ≠ some '0') {count : Nat}
    (short : digits.length ≤ count + 1) :
    Spells ⟨digits ++ List.replicate (count + 1 - digits.length) '0', some ['0'], none⟩ digits
      count := by
  have zero : IsDigits ['0'] := ⟨by simp, by simp⟩
  have whole : IsDigits (digits ++ List.replicate (count + 1 - digits.length) '0') := by
    refine ⟨by simp [formed.some], ?_⟩
    intro char member
    rcases List.mem_append.mp member with member | zeros
    · exact formed.all char member
    · rw [List.eq_of_mem_replicate zeros]
      rfl
  refine ⟨⟨whole, ?_, ?_, by simp⟩, rfl, ?_⟩
  · obtain ⟨first, others, rfl⟩ := List.exists_cons_of_ne_nil formed.some
    exact Or.inr start
  · intro fraction given
    obtain rfl := Option.some.inj given
    exact zero
  · have value : digitsValue (digits ++ List.replicate (count + 1 - digits.length) '0' ++ ['0']) =
        10 * (10 ^ (count + 1 - digits.length) * digitsValue digits) := by
      rw [ofDigitChars_append_zero]
      simp [digitsValue_eq, Nat.ofDigitChars_append]
    have power : ((count : Int) + 1 - digits.length) = (count + 1 - digits.length : Nat) := by omega
    simp only [Decimal.Scaled.value, Numeral.decimal, Option.getD_some, value, exponentValue, power,
      zpow_natCast]
    push_cast
    norm_num
    ring

theorem exponentValue_scientific (leading : Int) :
    exponentValue (some ⟨decide (leading < 0), Nat.toDigits 10 leading.natAbs⟩) = leading := by
  simp only [exponentValue, Exponent.value, digitsValue_toDigits, decide_eq_true_eq,
    Int.ofNat_eq_natCast]
  split <;> omega

theorem spells_scientific (formed : IsDigits digits) (start : digits.head? ≠ some '0') :
    Spells ⟨digits.take 1, if (digits.drop 1).isEmpty then none else some (digits.drop 1),
      some ⟨decide (leading < 0), Nat.toDigits 10 leading.natAbs⟩⟩ digits leading := by
  have fraction : (if (digits.drop 1).isEmpty then none else some (digits.drop 1)).getD [] =
      digits.drop 1 := by
    split
    · next empty => exact (List.isEmpty_iff.mp empty).symm
    · rfl
  refine ⟨⟨formed.take, Or.inr (head?_take_ne start), ?_, ?_⟩, ?_, ?_⟩
  · intro fraction given
    simp only [Option.mem_def] at given
    split at given
    · simp at given
    · next nonempty =>
        obtain rfl := Option.some.inj given
        refine ⟨fun empty => nonempty (List.isEmpty_iff.mpr empty), ?_⟩
        exact fun char member => formed.all char (List.mem_of_mem_drop member)
  · intro exponent given
    obtain rfl := Option.some.inj given
    exact isDigits_toDigits leading.natAbs
  · simp [Numeral.isWhole]
  · have nonempty := List.length_pos_of_ne_nil formed.some
    simp only [Decimal.Scaled.value, Numeral.decimal, fraction, List.take_append_drop,
      exponentValue_scientific]
    congr 2
    simp
    omega

theorem exists_spells (formed : IsDigits digits) (start : digits.head? ≠ some '0') (leading : Int) :
    ∃ numeral, Spells numeral digits leading ∧ numeral.text = Decimal.layout digits leading := by
  rw [Decimal.layout]
  split
  · split
    · next below =>
        refine ⟨_, spells_below_one formed below, ?_⟩
        simp [Numeral.text, fractionText, exponentText]
    · next atLeast =>
        obtain ⟨count, rfl⟩ := Int.eq_ofNat_of_zero_le (Int.not_lt.mp atLeast)
        by_cases inside : count + 1 < digits.length
        · refine ⟨_, spells_positional formed start inside, ?_⟩
          have nonempty : digits.drop (count + 1) ≠ [] := by simpa using inside
          simp [Numeral.text, fractionText, exponentText, Nat.sub_eq_zero_of_le inside.le, nonempty]
        · refine ⟨_, spells_padded formed start (Nat.le_of_not_lt inside), ?_⟩
          have empty := List.drop_eq_nil_of_le (Nat.le_of_not_lt inside)
          have whole := List.take_of_length_le (Nat.le_of_not_lt inside)
          simp [Numeral.text, fractionText, exponentText, empty, whole]
  · refine ⟨_, spells_scientific formed start, ?_⟩
    by_cases single : digits.tail = []
    · simp [Numeral.text, fractionText, exponentText, Exponent.text, single]
    · simp [Numeral.text, fractionText, exponentText, Exponent.text, single]

/-! Numbers. -/

def sign (negative : Bool) : List Char :=
  if negative then ['-'] else []

/-- The reader takes the text for the number. -/
inductive Number.IsSpelledBy (number : Number) : List Char → Prop
  | intro {numeral : Numeral} {negative : Bool} {digits : List Char}
      (spelled : numeral.IsSpelledBy digits) (value : numeral.number? negative = some number) :
      IsSpelledBy number (sign negative ++ digits)

theorem number_spelled {numeral : Numeral} {negative : Bool} {digits rest : List Char}
    {number : Number} (spelled : numeral.IsSpelledBy digits)
    (value : numeral.number? negative = some number) (stop : StopsAt continuesNumber rest) :
    Json.number negative (digits ++ rest) = .ok (number, rest) := by
  simp [Json.number, numeral_spelled _ spelled stop, Numeral.value, value, bind, Except.bind]

/-- The number that a numeral stands for, rounded once. -/
def Numeral.nearest? (numeral : Numeral) (negative : Bool) : Option Number :=
  numeral.integerOr negative (Decimal.nearest numeral.decimal)

def exactNumber (negative : Bool) (input : List Char) : Except Fault (Number × List Char) := do
  let (numeral, rest) ← numeral .unfinishedValue input
  match numeral.nearest? negative with
  | some number => .ok (number, rest)
  | none => .error (.before .numberOutOfRange rest)

def IsNumberChar (char : Char) : Prop :=
  continuesNumber char = true ∨ char = '+' ∨ char = '-'

instance (char : Char) : Decidable (IsNumberChar char) :=
  inferInstanceAs (Decidable (_ ∨ _))

/-- The text of a number after its sign, where it has one, is the numeral that stands for it. -/
structure ReadsBack (number : Number) (negative : Bool) (digits : List Char) : Prop where
  text : number.text.toList = sign negative ++ digits
  numeral : ∃ numeral : Numeral,
    numeral.WellFormed ∧ digits = numeral.text ∧ numeral.nearest? negative = some number

theorem IsDigits.chars {digits : List Char} (formed : IsDigits digits) :
    ∀ char ∈ digits, IsNumberChar char := by
  intro char member
  simp [IsNumberChar, continuesNumber, formed.all char member]

theorem Numeral.text_chars {numeral : Numeral} (formed : numeral.WellFormed) :
    ∀ char ∈ numeral.text, IsNumberChar char := by
  have fraction : ∀ char ∈ fractionText numeral.fraction, IsNumberChar char := by
    cases given : numeral.fraction with
    | none => simp [fractionText]
    | some digits =>
        exact List.forall_mem_cons.mpr ⟨by decide, (formed.fraction digits given).chars⟩
  have exponent : ∀ char ∈ exponentText numeral.exponent, IsNumberChar char := by
    cases given : numeral.exponent with
    | none => simp [exponentText]
    | some exponent =>
        refine List.forall_mem_cons.mpr ⟨by decide, List.forall_mem_cons.mpr ⟨?_, ?_⟩⟩
        · split <;> decide
        · exact (formed.exponent exponent given).chars
  intro char member
  rw [Numeral.text, List.mem_append, List.mem_append] at member
  rcases member with (member | member) | member
  · exact formed.whole.chars char member
  · exact fraction char member
  · exact exponent char member

theorem Numeral.IsSpelledBy.start {numeral : Numeral} {text : List Char}
    (spelled : numeral.IsSpelledBy text) :
    ∃ first rest, text = first :: rest ∧ first.isDigit = true := by
  cases spelled with
  | @intro tail formed exponent =>
      obtain ⟨first, rest, whole⟩ := List.exists_cons_of_ne_nil formed.whole.some
      refine ⟨first, rest ++ fractionText numeral.fraction ++ tail, ?_, ?_⟩
      · rw [whole]
        rfl
      · exact formed.whole.all first (by simp [whole])

section

variable {number : Number} {negative : Bool} {digits : List Char}
  (back : ReadsBack number negative digits)
include back

theorem ReadsBack.start : ∃ first rest, digits = first :: rest ∧ first.isDigit = true := by
  obtain ⟨numeral, formed, rfl, _⟩ := back.numeral
  exact formed.spelled.start

theorem ReadsBack.chars : ∀ char ∈ digits, IsNumberChar char := by
  obtain ⟨numeral, formed, rfl, _⟩ := back.numeral
  exact numeral.text_chars formed

theorem ReadsBack.read {rest : List Char} (stop : StopsAt continuesNumber rest) :
    exactNumber negative (digits ++ rest) = .ok (number, rest) := by
  obtain ⟨numeral, formed, rfl, value⟩ := back.numeral
  simp [exactNumber, numeral_spelled _ formed.spelled stop, value, bind, Except.bind]

end

theorem readsBack_of_nearest {numeral : Numeral} {value : Decimal.Binary64}
    (formed : numeral.WellFormed) (notWhole : numeral.isWhole = false)
    (nearest : Decimal.nearest numeral.decimal = some { value with isNegative := false })
    (text : Decimal.text value = sign value.isNegative ++ numeral.text) :
    ReadsBack (.real value) value.isNegative numeral.text := by
  refine ⟨by rw [Number.text, String.toList_ofList, text], numeral, formed, rfl, ?_⟩
  obtain ⟨isNegative, rank⟩ := value
  cases isNegative <;> simp [Numeral.nearest?, Numeral.integerOr, notWhole, nearest, signed,
    Decimal.Binary64.negate]

theorem decimal_of_spells {numeral : Numeral} {decimal : Decimal.Scaled}
    (spells : Spells numeral (Decimal.dropTrailingZeros (Nat.toDigits 10 decimal.digits))
      (decimal.order - 1)) : numeral.decimal.value = decimal.value := by
  obtain ⟨count, padded⟩ := dropTrailingZeros_append (Nat.toDigits 10 decimal.digits)
  have length := congrArg List.length padded
  have value := digitsValue_toDigits decimal.digits
  rw [padded, digitsValue_eq, Nat.ofDigitChars_append, Nat.ofDigitChars_replicate_zero,
    ← digitsValue_eq] at value
  rw [List.length_append, List.length_replicate] at length
  have exponent : decimal.order - 1 + 1 -
      (Decimal.dropTrailingZeros (Nat.toDigits 10 decimal.digits)).length =
        count + decimal.exponent := by
    rw [Decimal.Scaled.order, Int.ofNat_eq_natCast, length]
    push_cast
    ring
  have whole : (decimal.digits : ℚ) =
      10 ^ count * digitsValue (Decimal.dropTrailingZeros (Nat.toDigits 10 decimal.digits)) := by
    exact_mod_cast value.symm
  rw [spells.value, exponent, Decimal.Scaled.value, zpow_add₀ (by norm_num), zpow_natCast]
  rw [← mul_assoc, mul_comm _ ((10 : ℚ) ^ count), ← whole]

theorem dropTrailingZeros_start {value : Nat} (nonzero : value ≠ 0) :
    IsDigits (Decimal.dropTrailingZeros (Nat.toDigits 10 value)) ∧
      (Decimal.dropTrailingZeros (Nat.toDigits 10 value)).head? ≠ some '0' := by
  obtain ⟨count, padded⟩ := dropTrailingZeros_append (Nat.toDigits 10 value)
  have all := (isDigits_toDigits value).all
  have start := toDigits_start nonzero
  have total := digitsValue_toDigits value
  generalize Decimal.dropTrailingZeros (Nat.toDigits 10 value) = digits at *
  rw [padded] at all start total
  cases digits with
  | nil => simp [digitsValue_eq, nonzero.symm] at total
  | cons first rest =>
      refine ⟨⟨by simp, ?_⟩, start⟩
      exact fun char member => all char (List.mem_append_left _ member)

theorem readsBack_real (value : Decimal.Binary64) :
    ∃ digits, ReadsBack (.real value) value.isNegative digits := by
  by_cases zero : value.magnitude.significand = 0
  · have formed : Numeral.WellFormed ⟨['0'], some ['0'], none⟩ := by
      have digits : IsDigits ['0'] := ⟨by simp, by simp⟩
      refine ⟨digits, Or.inl rfl, ?_, by simp⟩
      intro fraction given
      obtain rfl := Option.some.inj given
      exact digits
    refine ⟨_, readsBack_of_nearest formed rfl ?_ ?_⟩
    · have digits : (Numeral.decimal ⟨['0'], some ['0'], none⟩).digits = 0 := rfl
      rw [Decimal.nearest, if_pos (Or.inl digits), value.eq_zero_of_significand zero]
    · rw [Decimal.text, if_pos zero]
      rfl
  · have near := Decimal.near_shortest zero
    have digits := Decimal.Scaled.digits_ne_zero (near.bounds value.canonical zero).1
    obtain ⟨formed, start⟩ := dropTrailingZeros_start digits
    obtain ⟨numeral, spells, text⟩ := exists_spells formed start
      ((Decimal.shortest value.magnitude).order - 1)
    refine ⟨_, readsBack_of_nearest spells.formed spells.notWhole ?_ ?_⟩
    · rw [← decimal_of_spells spells] at near
      exact @Decimal.nearest_of_near { value with isNegative := false } numeral.decimal rfl zero near
    · rw [Decimal.text, if_neg zero, text, sign]

theorem toList_toString (value : Int) :
    (toString value).toList =
      sign (decide (value < 0)) ++ Nat.toDigits 10 value.natAbs := by
  rw [Int.toString_eq_repr, Int.repr_eq_if, sign]
  by_cases below : value < 0
  · have size : (-value).toNat = value.natAbs := by omega
    rw [if_neg (by omega), String.toList_append, Nat.toList_repr, size]
    simp [below]
  · have size : value.toNat = value.natAbs := by omega
    rw [if_pos (by omega), Nat.toList_repr, size]
    simp [below]

/-! An integer is read from its digits, however reals are. -/

def wholeNumeral (value : Int) : Numeral :=
  ⟨Nat.toDigits 10 value.natAbs, none, none⟩

theorem wholeNumeral_formed (value : Int) : (wholeNumeral value).WellFormed := by
  refine ⟨isDigits_toDigits _, ?_, by simp [wholeNumeral], by simp [wholeNumeral]⟩
  by_cases zero : value.natAbs = 0
  · rw [wholeNumeral, zero]
    exact Or.inl rfl
  · exact Or.inr (toDigits_start zero)

theorem integerOr_wholeNumeral (value : Int) (inRange : fits value = true)
    (real : Option Decimal.Binary64) :
    (wholeNumeral value).integerOr (decide (value < 0)) real = some (.integer value inRange) := by
  have signed : (if decide (value < 0) = true then -Int.ofNat value.natAbs
      else Int.ofNat value.natAbs) = value := by
    simp only [Int.ofNat_eq_natCast, decide_eq_true_eq]
    split <;> omega
  simp only [Numeral.integerOr, wholeNumeral, digitsValue_toDigits, signed, inRange, ↓reduceDIte]
  rw [if_pos]
  by_cases zero : value = 0 <;> simp [Numeral.isWhole, zero]

theorem toList_integer (value : Int) (inRange : fits value = true) :
    (Number.integer value inRange).text.toList =
      sign (decide (value < 0)) ++ (wholeNumeral value).text := by
  have text : (wholeNumeral value).text = Nat.toDigits 10 value.natAbs := by
    simp [wholeNumeral, Numeral.text, fractionText, exponentText]
  rw [Number.text, toList_toString, text]

theorem readsBack_integer (value : Int) (inRange : fits value = true) :
    ReadsBack (.integer value inRange) (decide (value < 0)) (wholeNumeral value).text :=
  ⟨toList_integer value inRange, wholeNumeral value, wholeNumeral_formed value, rfl,
    integerOr_wholeNumeral value inRange _⟩

theorem isSpelledBy_integer (value : Int) (inRange : fits value = true) :
    (Number.integer value inRange).IsSpelledBy (Number.integer value inRange).text.toList := by
  rw [toList_integer]
  exact .intro (wholeNumeral_formed value).spelled (integerOr_wholeNumeral value inRange _)

theorem exists_readsBack (number : Number) :
    ∃ negative digits, ReadsBack number negative digits := by
  cases number with
  | integer value inRange => exact ⟨_, _, readsBack_integer value inRange⟩
  | real value => exact ⟨_, readsBack_real value⟩

theorem number_text_chars (number : Number) :
    ∀ char ∈ number.text.toList, IsNumberChar char := by
  obtain ⟨negative, digits, back⟩ := exists_readsBack number
  intro char member
  rw [back.text, List.mem_append] at member
  rcases member with sign | member
  · cases negative with
    | true => exact Or.inr (Or.inr (List.mem_singleton.mp sign))
    | false => exact absurd sign List.not_mem_nil
  · exact back.chars char member

end RouteForge.Json
