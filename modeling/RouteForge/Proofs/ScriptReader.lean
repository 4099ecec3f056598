import RouteForge.Proofs.NumberText
import RouteForge.Proofs.StringText
import RouteForge.Script.Literal
import RouteForge.Script.Name

/-!
A reader of literals and of generated scripts. A literal is JSON in which a key may also be a name
and in which a name stands for what it is bound to; a script holds comments, default imports and
exported constants. Which names there are is left to a lexicon.
-/

namespace RouteForge.Script

open Json (StopsAt)

/-! Tokens. -/

inductive Scalar where
  | word (letters : String)
  | string (text : String)
  | number (number : Json.Number)
  deriving DecidableEq, Repr

inductive Token where
  | scalar (scalar : Scalar)
  | mark (char : Char)
  deriving DecidableEq, Repr

def word (letters : String) : Token :=
  .scalar (.word letters)

def marks : List Char := ['{', '}', '[', ']', ':', ',', ';', '=']

/-- Characters that decide by themselves what starts there. -/
def specials : List Char := marks ++ ['"', '/', ' ', '\n', '\t', '\r', '-']

inductive Data where
  | null
  | flag (flag : Bool)
  | number (number : Json.Number)
  | text (text : String)
  | reference (name : String)
  | list (items : List Data)
  | record (members : List (String × Data))
  deriving Repr

def constants : List (String × Data) :=
  [("null", .null), ("true", .flag true), ("false", .flag false)]

def Scalar.data : Scalar → Data
  | .string text => .text text
  | .number value => .number value
  | .word letters => (constants.lookup letters).getD (.reference letters)

/-- Letters of which the first starts a name and the others go on with it. -/
def SpelledWith (starts continues : Char → Bool) (letters : List Char) : Prop :=
  ∃ first rest, letters = first :: rest ∧ starts first = true ∧
    ∀ char ∈ rest, continues char = true

section

variable {starts continues : Char → Bool}

theorem spelledWith_cons (first : Char) (rest : List Char) :
    SpelledWith starts continues (first :: rest) ↔
      starts first = true ∧ ∀ char ∈ rest, continues char = true := by
  constructor
  · rintro ⟨head, tail, same, spelled⟩
    obtain ⟨rfl, rfl⟩ := List.cons.inj same
    exact spelled
  · exact fun spelled => ⟨first, rest, rfl, spelled⟩

instance : DecidablePred (SpelledWith starts continues)
  | [] => .isFalse (by simp [SpelledWith])
  | first :: rest =>
      decidable_of_iff ((starts first && rest.all continues) = true) (by simp [spelledWith_cons])

end

/-- The characters that names start with and go on with, and the names that are no values. No name
starts like another token or goes on over a character that separates tokens, and the constants of
JSON are spelled as names are. -/
structure Lexicon where
  starts : Char → Bool
  continues : Char → Bool
  reserved : String → Bool
  starts_special : ∀ char ∈ specials, starts char = false
  starts_digit : ∀ char, char.isDigit = true → starts char = false
  continues_special : ∀ char ∈ specials, continues char = false
  constants_spelled : ∀ entry ∈ constants, SpelledWith starts continues entry.1.toList

/-- Passes over blanks and comments; a comment goes on to the end of its line. -/
def skipBlank : Bool → List Char → List Char
  | _, [] => []
  | true, char :: rest => skipBlank (char != '\n') rest
  | false, '/' :: '/' :: rest => skipBlank true rest
  | false, char :: rest => if Json.isSpace char then skipBlank false rest else char :: rest

def signedNumber : List Char → Except Json.Fault (Json.Number × List Char)
  | '-' :: rest => Json.exactNumber true rest
  | input => Json.exactNumber false input

def scalarToken? (outcome : Except Json.Fault (Scalar × List Char)) :
    Option (Token × List Char) :=
  match outcome with
  | .ok (scalar, rest) => some (.scalar scalar, rest)
  | .error _ => none

theorem length_skipBlank_le (comment : Bool) (input : List Char) :
    (skipBlank comment input).length ≤ input.length := by
  fun_induction skipBlank comment input <;> simp_all <;> omega

def keyOf : Scalar → Option String
  | .word letters => some letters
  | .string text => some text
  | .number _ => none

/-! Characters at which a token starts. -/

theorem skipBlank_comment {text : List Char} (unbroken : '\n' ∉ text) (rest : List Char) :
    skipBlank true (text ++ '\n' :: rest) = skipBlank false rest := by
  induction text with
  | nil => rfl
  | cons char text ih =>
      simp only [List.mem_cons, not_or] at unbroken
      have inside : (char != '\n') = true := bne_iff_ne.mpr fun same => unbroken.1 same.symm
      rw [List.cons_append, skipBlank, inside, ih unbroken.2]

/-- Characters at which neither a blank nor a comment starts. -/
def isVisible (char : Char) : Bool :=
  !Json.isSpace char && char != '/'

theorem skipBlank_visible {char : Char} (visible : isVisible char = true) (rest : List Char) :
    skipBlank false (char :: rest) = char :: rest := by
  rw [isVisible, Bool.and_eq_true, Bool.not_eq_true', bne_iff_ne] at visible
  rw [skipBlank.eq_def]
  split <;> simp_all

theorem isDigit_special (char : Char) (special : char ∈ specials) : char.isDigit = false := by
  have absent : specials.any Char.isDigit = false := by decide
  simpa using List.any_eq_false.mp absent char special

structure Plain (char : Char) : Prop where
  notMark : char ∉ marks
  notQuote : char ≠ '"'
  notMinus : char ≠ '-'
  visible : isVisible char = true

theorem plain_of_not_special {char : Char} (other : char ∉ specials) : Plain char := by
  simp only [specials, List.mem_append, List.mem_cons, List.not_mem_nil, or_false, not_or] at other
  obtain ⟨notMark, notQuote, notSlash, notSpace, notFeed, notTab, notReturn, notMinus⟩ := other
  refine ⟨notMark, notQuote, notMinus, ?_⟩
  simp [isVisible, Json.isSpace, notSlash, notSpace, notFeed, notTab, notReturn]

theorem plain_of_isDigit {char : Char} (digit : char.isDigit = true) : Plain char := by
  apply plain_of_not_special
  intro special
  rw [isDigit_special char special] at digit
  exact absurd digit (by decide)

namespace Lexicon

variable (lexicon : Lexicon)

def IsName (letters : List Char) : Prop :=
  SpelledWith lexicon.starts lexicon.continues letters

instance : DecidablePred lexicon.IsName := fun letters =>
  inferInstanceAs (Decidable (SpelledWith lexicon.starts lexicon.continues letters))

/-- A constant is a value although it is reserved. -/
def isValue : Scalar → Bool
  | .word letters => (constants.lookup letters).isSome || !lexicon.reserved letters
  | _ => true

def nextToken (char : Char) (rest : List Char) : Option (Token × List Char) :=
  if marks.contains char then
    some (.mark char, rest)
  else if char = '"' then
    scalarToken? ((Json.string rest).map fun (text, rest) => (.string text, rest))
  else if lexicon.starts char then
    some (.scalar (.word (String.ofList (char :: rest.takeWhile lexicon.continues))),
      rest.dropWhile lexicon.continues)
  else
    scalarToken? ((signedNumber (char :: rest)).map fun (number, rest) => (.number number, rest))

def tokens (input : List Char) : Option (List Token) :=
  match _start : skipBlank false input with
  | [] => some []
  | char :: rest =>
      match lexicon.nextToken char rest with
      | none => none
      | some (token, after) =>
          if after.length ≤ rest.length then (tokens after).map (token :: ·) else none
termination_by input.length
decreasing_by
  have shorter := length_skipBlank_le false input
  rw [_start, List.length_cons] at shorter
  omega

mutual
def readValue : Nat → List Token → Option (Data × List Token)
  | _, .scalar scalar :: rest => if lexicon.isValue scalar then some (scalar.data, rest) else none
  | fuel + 1, .mark '[' :: rest =>
      if rest.head? = some (.mark ']') then
        some (.list [], rest.tail)
      else do
        let (items, rest) ← readItems fuel rest
        return (.list items, rest)
  | fuel + 1, .mark '{' :: rest =>
      if rest.head? = some (.mark '}') then
        some (.record [], rest.tail)
      else do
        let (members, rest) ← readMembers fuel rest
        return (.record members, rest)
  | _, _ => none

def readItems : Nat → List Token → Option (List Data × List Token)
  | 0, _ => none
  | fuel + 1, input => do
      let (item, rest) ← readValue fuel input
      match rest with
      | .mark ',' :: rest => do
          let (items, rest) ← readItems fuel rest
          return (item :: items, rest)
      | .mark ']' :: rest => return ([item], rest)
      | _ => none

def readMembers : Nat → List Token → Option (List (String × Data) × List Token)
  | fuel + 1, .scalar scalar :: .mark ':' :: rest => do
      let key ← keyOf scalar
      let (value, rest) ← readValue fuel rest
      match rest with
      | .mark ',' :: rest => do
          let (members, rest) ← readMembers fuel rest
          return ((key, value) :: members, rest)
      | .mark '}' :: rest => return ([(key, value)], rest)
      | _ => none
  | _, _ => none
end

/-- Reads a literal, of which nothing is left over. -/
def read (text : String) : Option Data := do
  let input ← lexicon.tokens text.toList
  match lexicon.readValue input.length input with
  | some (data, []) => some data
  | _ => none

/-! Reading tokens one after the other. -/

def tokensFrom : List Char → Option (List Token)
  | [] => some []
  | char :: rest =>
      match lexicon.nextToken char rest with
      | none => none
      | some (token, after) =>
          if after.length ≤ rest.length then (lexicon.tokens after).map (token :: ·) else none

theorem tokens_eq (input : List Char) :
    lexicon.tokens input = lexicon.tokensFrom (skipBlank false input) := by
  rw [tokens]
  split
  · next none => rw [none, tokensFrom]
  · next char rest start =>
      rw [start, tokensFrom]

variable {lexicon}

theorem tokens_congr {first second : List Char}
    (same : skipBlank false first = skipBlank false second) :
    lexicon.tokens first = lexicon.tokens second := by
  rw [tokens_eq, tokens_eq, same]

theorem tokens_space {char : Char} (space : Json.isSpace char = true) (rest : List Char) :
    lexicon.tokens (char :: rest) = lexicon.tokens rest := by
  have notSlash : char ≠ '/' := by
    rintro rfl
    exact absurd space (by decide)
  apply tokens_congr
  rw [skipBlank.eq_def]
  split <;> simp_all

theorem tokens_comment {text : List Char} (unbroken : '\n' ∉ text) (rest : List Char) :
    lexicon.tokens ('/' :: '/' :: text ++ '\n' :: rest) = lexicon.tokens rest :=
  tokens_congr (skipBlank_comment unbroken rest)

theorem tokens_nil : lexicon.tokens [] = some [] := by
  rw [tokens_eq]
  rfl

variable (lexicon) in
def continuesToken (char : Char) : Bool :=
  lexicon.continues char || Json.continuesNumber char

variable (lexicon) in
/-- A text that reads as the given tokens wherever it does not run into what follows. -/
def Reads (chars : List Char) (read : List Token) : Prop :=
  ∀ rest, StopsAt lexicon.continuesToken rest →
    lexicon.tokens (chars ++ rest) = (lexicon.tokens rest).map (read ++ ·)

theorem Reads.append {first second : List Char} {firstRead secondRead : List Token}
    (reads : lexicon.Reads first firstRead) (stop : StopsAt lexicon.continuesToken second)
    (readsNext : lexicon.Reads second secondRead) :
    lexicon.Reads (first ++ second) (firstRead ++ secondRead) := by
  intro rest after
  rw [List.append_assoc, reads _ (stop.append after), readsNext rest after, Option.map_map]
  simp [Function.comp_def]

theorem Reads.space {char : Char} {chars : List Char} {read : List Token}
    (space : Json.isSpace char = true) (reads : lexicon.Reads chars read) :
    lexicon.Reads (char :: chars) read := by
  intro rest after
  rw [List.cons_append, tokens_space space, reads rest after]

theorem stopsAt_continues {rest : List Char} (stop : StopsAt lexicon.continuesToken rest) :
    StopsAt lexicon.continues rest := by
  intro char next
  have stopped := stop char next
  rw [continuesToken, Bool.or_eq_false_iff] at stopped
  exact stopped.1

theorem stopsAt_continuesNumber {rest : List Char} (stop : StopsAt lexicon.continuesToken rest) :
    StopsAt Json.continuesNumber rest := by
  intro char next
  have stopped := stop char next
  rw [continuesToken, Bool.or_eq_false_iff] at stopped
  exact stopped.2

theorem reads_of_nextToken {char : Char} {chars : List Char} {token : Token}
    (visible : isVisible char = true)
    (next : ∀ rest, StopsAt lexicon.continuesToken rest →
      lexicon.nextToken char (chars ++ rest) = some (token, rest)) :
    lexicon.Reads (char :: chars) [token] := by
  intro rest stop
  rw [tokens_eq, List.cons_append, skipBlank_visible visible, tokensFrom, next rest stop]
  simp

theorem reads_mark {char : Char} (member : char ∈ marks) : lexicon.Reads [char] [.mark char] := by
  have visible : marks.all isVisible = true := by decide
  refine reads_of_nextToken (List.all_eq_true.mp visible char member) fun rest _ => ?_
  rw [nextToken, if_pos (List.contains_iff_mem.mpr member)]
  rfl

theorem plain_of_starts {char : Char} (starts : lexicon.starts char = true) : Plain char := by
  apply plain_of_not_special
  intro special
  rw [lexicon.starts_special char special] at starts
  exact absurd starts (by decide)

theorem reads_word {letters : String} (named : lexicon.IsName letters.toList) :
    lexicon.Reads letters.toList [word letters] := by
  obtain ⟨first, rest, shape, starts, continues⟩ := named
  have plain := plain_of_starts starts
  rw [shape]
  refine reads_of_nextToken plain.visible fun after stop => ?_
  obtain ⟨taken, left⟩ :=
    Json.takeWhile_append_of_stopsAt continues (stopsAt_continues stop)
  have whole : String.ofList (first :: rest) = letters := by rw [← shape, String.ofList_toList]
  simp [nextToken, plain.notMark, plain.notQuote, starts, taken, left, whole, word]

theorem reads_string (text : String) :
    lexicon.Reads (Json.literalChars text.toList) [.scalar (.string text)] := by
  have shape : Json.literalChars text.toList =
      '"' :: (text.toList.flatMap Json.writtenChar ++ ['"']) := rfl
  have notMark : '"' ∉ marks := by decide
  rw [shape]
  refine reads_of_nextToken (by decide) fun rest _ => ?_
  have read := Json.string_written text rest
  simp [nextToken, notMark, read, Except.map, scalarToken?]

theorem reads_number (number : Json.Number) :
    lexicon.Reads number.text.toList [.scalar (.number number)] := by
  obtain ⟨negative, digits, back⟩ := Json.exists_readsBack number
  rw [back.text]
  cases negative with
  | true =>
      refine reads_of_nextToken (by decide) fun after stop => ?_
      have read := back.read (stopsAt_continuesNumber stop)
      have notMark : '-' ∉ marks := by decide
      have notStart := lexicon.starts_special '-' (by decide)
      simp [nextToken, notMark, notStart, signedNumber, read, Except.map, scalarToken?]
  | false =>
      obtain ⟨first, rest, shape, digit⟩ := back.start
      have plain := plain_of_isDigit digit
      have signless (input : List Char) :
          signedNumber (first :: input) = Json.exactNumber false (first :: input) := by
        rw [signedNumber.eq_def]
        split
        · next same => exact absurd (List.cons.inj same).1 plain.notMinus
        · rfl
      rw [shape]
      refine reads_of_nextToken plain.visible fun after stop => ?_
      have read := back.read (stopsAt_continuesNumber stop)
      rw [shape, List.cons_append] at read
      simp [nextToken, plain.notMark, plain.notQuote, lexicon.starts_digit first digit, signless,
        read, Except.map, scalarToken?]

end Lexicon

/-! The names of generated scripts. -/

theorem startsName_special (char : Char) (special : char ∈ specials) : startsName char = false := by
  have absent : specials.any startsName = false := by decide +kernel
  simpa using List.any_eq_false.mp absent char special

theorem continuesName_special (char : Char) (special : char ∈ specials) :
    continuesName char = false := by
  have absent : specials.any continuesName = false := by decide +kernel
  simpa using List.any_eq_false.mp absent char special

theorem toNat_of_isAlphabetic {char : Char} (alphabetic : Text.isAlphabetic char = true) :
    0x41 ≤ char.toNat := by
  have lowest : ∀ range ∈ Text.alphabeticRanges, 0x41 ≤ range.1 := by decide +kernel
  obtain ⟨range, member, atLeast, _⟩ := (Text.inRanges_iff _ _).mp alphabetic
  exact Nat.le_trans (lowest range member) atLeast

theorem isDigit_bounds {char : Char} (digit : char.isDigit = true) :
    0x30 ≤ char.toNat ∧ char.toNat ≤ 0x39 := by
  simpa [Char.isDigit, UInt32.le_iff_toNat_le] using digit

theorem startsName_digit {char : Char} (digit : char.isDigit = true) : startsName char = false := by
  have bounds := isDigit_bounds digit
  have notAlphabetic : Text.isAlphabetic char = false := by
    by_contra alphabetic
    have atLeast := toNat_of_isAlphabetic (Bool.eq_true_of_not_eq_false alphabetic)
    omega
  have notUnderscore : char ≠ '_' := by
    rintro rfl
    exact absurd digit (by decide)
  have notDollar : char ≠ '$' := by
    rintro rfl
    exact absurd digit (by decide)
  simp [startsName, notAlphabetic, notUnderscore, notDollar]

def Lexicon.generated : Lexicon where
  starts := startsName
  continues := continuesName
  reserved := isReserved
  starts_special := startsName_special
  starts_digit _ := startsName_digit
  continues_special := continuesName_special
  constants_spelled := by decide +kernel

/-! Statements. -/

inductive Statement where
  | importDefault (name specifier : String)
  | constant (name : String) (value : Data)
  deriving Repr

def readStatement (input : List Token) : Option (Statement × List Token) :=
  match input with
  | .scalar (.word "import") :: .scalar (.word name) :: .scalar (.word "from") ::
      .scalar (.string specifier) :: .mark ';' :: rest =>
      if isReserved name then none else some (.importDefault name specifier, rest)
  | .scalar (.word "export") :: .scalar (.word "const") :: .scalar (.word name) :: .mark '=' ::
      rest =>
      if isReserved name then none
      else
        match Lexicon.generated.readValue rest.length rest with
        | some (value, .mark ';' :: rest) => some (.constant name value, rest)
        | _ => none
  | _ => none

def readStatements : Nat → List Token → Option (List Statement)
  | _, [] => some []
  | 0, _ => none
  | fuel + 1, input => do
      let (statement, rest) ← readStatement input
      let statements ← readStatements fuel rest
      return statement :: statements

def read (text : String) : Option (List Statement) := do
  let input ← Lexicon.generated.tokens text.toList
  readStatements input.length input

end RouteForge.Script
