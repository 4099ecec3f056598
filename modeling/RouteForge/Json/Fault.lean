import RouteForge.Decimal.Shortest
import RouteForge.Json.Value
import RouteForge.Text.Lines
import RouteForge.Text.Quoted

/-!
What can be wrong with a document, where, and in which words. Lines count from one; a column is
the number of bytes between the start of the line and the place, so it is zero right after a line
feed.
-/

namespace RouteForge.Json

inductive Found where
  | null
  | boolean (flag : Bool)
  | number (number : Number)
  | string (text : String)
  | list
  | object
  deriving DecidableEq, Repr

inductive Cause where
  | unfinishedValue
  | unfinishedList
  | unfinishedObject
  | unfinishedString
  | misspelledWord
  | expectedValue
  | keyNotString
  | missingColon
  | missingListComma
  | missingObjectComma
  | trailingComma
  | trailingText
  | tooDeep
  | malformedNumber
  | numberOutOfRange
  | controlCharacter
  | unknownEscape
  | loneSurrogate
  | unfinishedSurrogate
  | wrongType (found : Found) (wanted : String)
  | unknownChoice (name : String) (choices : List String)
  | missingField (name : String)
  | repeatedField (name : String)
  | wrongLength (count : Nat) (wanted : String)
  deriving DecidableEq, Repr

def Number.text : Number → String
  | .integer value _ => toString value
  | .real value => String.ofList (Decimal.text value)

def ticked (text : String) : String :=
  "`" ++ text ++ "`"

def Found.description : Found → String
  | .null => "null"
  | .boolean flag => "boolean " ++ ticked (if flag then "true" else "false")
  | .number (.integer value inRange) =>
      "integer " ++ ticked (Number.integer value inRange).text
  | .number (.real value) => "floating point " ++ ticked (Number.real value).text
  | .string text => "string " ++ Text.quoted text
  | .list => "sequence"
  | .object => "map"

def Cause.message : Cause → String
  | .unfinishedValue => "EOF while parsing a value"
  | .unfinishedList => "EOF while parsing a list"
  | .unfinishedObject => "EOF while parsing an object"
  | .unfinishedString => "EOF while parsing a string"
  | .misspelledWord => "expected ident"
  | .expectedValue => "expected value"
  | .keyNotString => "key must be a string"
  | .missingColon => "expected `:`"
  | .missingListComma => "expected `,` or `]`"
  | .missingObjectComma => "expected `,` or `\x7d`"
  | .trailingComma => "trailing comma"
  | .trailingText => "trailing characters"
  | .tooDeep => "recursion limit exceeded"
  | .malformedNumber => "invalid number"
  | .numberOutOfRange => "number out of range"
  | .controlCharacter => "control character (\\u0000-\\u001F) found while parsing a string"
  | .unknownEscape => "invalid escape"
  | .loneSurrogate => "lone leading surrogate in hex escape"
  | .unfinishedSurrogate => "unexpected end of hex escape"
  | .wrongType found wanted => "invalid type: " ++ found.description ++ ", expected " ++ wanted
  | .unknownChoice name choices =>
      "unknown variant " ++ ticked name ++ ", expected one of " ++
        ", ".intercalate (choices.map ticked)
  | .missingField name => "missing field " ++ ticked name
  | .repeatedField name => "duplicate field " ++ ticked name
  | .wrongLength count wanted => "invalid length " ++ toString count ++ ", expected " ++ wanted

/-- A fault while reading: the text not yet read, and how many bytes into it the fault lies. -/
structure Fault where
  cause : Cause
  rest : List Char
  ahead : Nat

def Fault.before (cause : Cause) (rest : List Char) : Fault :=
  ⟨cause, rest, 0⟩

def Fault.after (cause : Cause) (rest : List Char) : Fault :=
  ⟨cause, rest, 1⟩

structure Position where
  line : Nat
  column : Nat
  deriving DecidableEq, Repr

def Position.advance (position : Position) : List Char → Nat → Position
  | [], _ => position
  | char :: rest, count =>
      if count = 0 then
        position
      else if count < char.utf8Size then
        { position with column := position.column + count }
      else if char = '\n' then
        advance ⟨position.line + 1, 0⟩ rest (count - 1)
      else
        advance { position with column := position.column + char.utf8Size } rest
          (count - char.utf8Size)

def Position.start : Position := ⟨1, 0⟩

def Position.ofOffset (text : List Char) (offset : Nat) : Position :=
  Position.start.advance text offset

structure Error where
  cause : Cause
  position : Option Position
  deriving DecidableEq, Repr

def Error.message (error : Error) : String :=
  match error.position with
  | none => error.cause.message
  | some position =>
      error.cause.message ++ " at line " ++ toString position.line ++
        " column " ++ toString position.column

def Fault.offset (fault : Fault) (text : List Char) : Nat :=
  let total := Text.byteCount text
  min total (total - Text.byteCount fault.rest + fault.ahead)

def Fault.toError (fault : Fault) (text : List Char) : Error :=
  ⟨fault.cause, some (Position.ofOffset text (fault.offset text))⟩

end RouteForge.Json
