import RouteForge.Json.Skip

/-!
Readers for documents whose shape is known. A reader of a list or an object opens a bracket, and
at most 127 brackets may be open at a time; a budget counts how many still may. A fault inside a
value comes before any fault of the text after it.
-/

namespace RouteForge.Json

def bracketBudget : Nat := 127

def tooDeep (input : List Char) : Fault :=
  .after .tooDeep input

/-- The fault of a value that is not of the kind wanted. A value of one token is read first, so its
own faults win, and the fault lies after it; a list or an object is not read. -/
def wrongType (wanted : String) : List Char → Fault
  | 'n' :: rest => scalar .null (word ['u', 'l', 'l'] rest)
  | 't' :: rest => scalar (.boolean true) (word ['r', 'u', 'e'] rest)
  | 'f' :: rest => scalar (.boolean false) (word ['a', 'l', 's', 'e'] rest)
  | '-' :: rest => numeric (number true rest)
  | '"' :: rest =>
      match string rest with
      | .error fault => fault
      | .ok (text, rest) => .before (.wrongType (.string text) wanted) rest
  | '[' :: rest => .before (.wrongType .list wanted) ('[' :: rest)
  | '{' :: rest => .before (.wrongType .object wanted) ('{' :: rest)
  | input =>
      if (input.head?.map Char.isDigit).getD false then numeric (number false input)
      else .after .expectedValue input
where
  scalar (found : Found) : Except Fault (List Char) → Fault
    | .error fault => fault
    | .ok rest => .before (.wrongType found wanted) rest
  numeric : Except Fault (Number × List Char) → Fault
    | .error fault => fault
    | .ok (number, rest) => .before (.wrongType (.number number) wanted) rest

def valueStart (input : List Char) : Except Fault (List Char) :=
  match skipSpace input with
  | [] => .error (.after .unfinishedValue [])
  | rest => .ok rest

def text : Reader String := fun input => do
  match ← valueStart input with
  | '"' :: rest => string rest
  | rest => .error (wrongType "a string" rest)

def boolean : Reader Bool := fun input => do
  match ← valueStart input with
  | 't' :: rest => return (true, ← word ['r', 'u', 'e'] rest)
  | 'f' :: rest => return (false, ← word ['a', 'l', 's', 'e'] rest)
  | rest => .error (wrongType "a boolean" rest)

def unit : Reader Unit := fun input => do
  match ← valueStart input with
  | 'n' :: rest => return ((), ← word ['u', 'l', 'l'] rest)
  | rest => .error (wrongType "unit" rest)

def optional {α : Type} (read : Reader α) : Reader (Option α) := fun input =>
  match skipSpace input with
  | 'n' :: rest => return (none, ← word ['u', 'l', 'l'] rest)
  | _ => do
      let (value, rest) ← read input
      .ok (some value, rest)

/-! Lists. -/

def nextElement (isFirst : Bool) (input : List Char) : Except Fault (Bool × List Char) :=
  match skipSpace input with
  | [] => .error (.after .unfinishedList [])
  | ']' :: rest => .ok (false, ']' :: rest)
  | char :: rest =>
      if isFirst then
        .ok (true, char :: rest)
      else if char = ',' then
        match skipSpace rest with
        | [] => .error (.after .unfinishedValue [])
        | ']' :: rest => .error (.after .trailingComma (']' :: rest))
        | rest => .ok (true, rest)
      else
        .error (.after .missingListComma (char :: rest))

def closeList (input : List Char) : Except Fault (List Char) :=
  match skipSpace input with
  | [] => .error (.after .unfinishedList [])
  | ']' :: rest => .ok rest
  | ',' :: rest =>
      match skipSpace rest with
      | ']' :: rest => .error (.after .trailingComma (']' :: rest))
      | rest => .error (.after .trailingText rest)
  | rest => .error (.after .trailingText rest)

/-- Reads elements up to the closing bracket. Each takes a character at least, so the text itself
bounds their number. -/
def elements {α : Type} (read : Reader α) : List Char → Bool → Reader (List α)
  | bound, isFirst, input => do
      let (more, rest) ← nextElement isFirst input
      if more then
        match bound with
        | [] => .error (.before .unfinishedList rest)
        | _ :: bound =>
            let (value, rest) ← read rest
            let (values, rest) ← elements read bound false rest
            .ok (value :: values, rest)
      else
        .ok ([], rest)

def listFrom {α : Type} (read : Reader α) (input : List Char) :
    Except Fault (List α × List Char) := do
  let (values, rest) ← elements read input true input
  let rest ← closeList rest
  .ok (values, rest)

def list {α : Type} (budget : Nat) (read : Reader α) : Reader (List α) := fun input => do
  match ← valueStart input with
  | '[' :: rest =>
      if budget = 0 then .error (tooDeep ('[' :: rest)) else listFrom read rest
  | rest => .error (wrongType "a sequence" rest)

/-! Objects. -/

def nextKey (isFirst : Bool) (input : List Char) : Except Fault (Bool × List Char) :=
  match skipSpace input with
  | [] => .error (.after .unfinishedObject [])
  | '}' :: rest => .ok (false, '}' :: rest)
  | char :: rest =>
      if isFirst then
        if char = '"' then .ok (true, rest) else .error (.after .keyNotString (char :: rest))
      else if char = ',' then
        match skipSpace rest with
        | [] => .error (.after .unfinishedValue [])
        | '"' :: rest => .ok (true, rest)
        | '}' :: rest => .error (.after .trailingComma ('}' :: rest))
        | rest => .error (.after .keyNotString rest)
      else
        .error (.after .missingObjectComma (char :: rest))

def colon (input : List Char) : Except Fault (List Char) :=
  skipColon input

def closeObject (input : List Char) : Except Fault (List Char) :=
  match skipSpace input with
  | [] => .error (.after .unfinishedObject [])
  | '}' :: rest => .ok rest
  | ',' :: rest => .error (.after .trailingComma (',' :: rest))
  | rest => .error (.after .trailingText rest)

/-- Reads members into an object; of two members with one key the later gives the value and the
earlier the place. -/
def members (read : Reader Value) : List Char → Bool → Members → Reader Members
  | bound, isFirst, collected, input => do
      let (more, rest) ← nextKey isFirst input
      if more then
        match bound with
        | [] => .error (.before .unfinishedObject rest)
        | _ :: bound =>
            let (key, rest) ← string rest
            let rest ← colon rest
            let (value, rest) ← read rest
            members read bound false (collected.put key value) rest
      else
        .ok (collected, rest)

def membersFrom (read : Reader Value) (input : List Char) :
    Except Fault (Members × List Char) := do
  let (collected, rest) ← members read input true [] input
  let rest ← closeObject rest
  .ok (collected, rest)

/-! Any value. -/

def valueWith (inner : Option (Reader Value)) : Reader Value := fun input => do
  match ← valueStart input with
  | 'n' :: rest => return (.null, ← word ['u', 'l', 'l'] rest)
  | 't' :: rest => return (.bool true, ← word ['r', 'u', 'e'] rest)
  | 'f' :: rest => return (.bool false, ← word ['a', 'l', 's', 'e'] rest)
  | '-' :: rest => do
      let (number, rest) ← number true rest
      return (.number number, rest)
  | '"' :: rest => do
      let (text, rest) ← string rest
      return (.string text, rest)
  | '[' :: rest =>
      match inner with
      | none => .error (tooDeep ('[' :: rest))
      | some read => do
          let (items, rest) ← listFrom read rest
          return (.array items, rest)
  | '{' :: rest =>
      match inner with
      | none => .error (tooDeep ('{' :: rest))
      | some read => do
          let (members, rest) ← membersFrom read rest
          return (.object members, rest)
  | rest =>
      if (rest.head?.map Char.isDigit).getD false then do
        let (number, rest) ← number false rest
        return (.number number, rest)
      else
        .error (.after .expectedValue rest)

def value : Nat → Reader Value
  | 0 => valueWith none
  | budget + 1 => valueWith (some (value budget))

def object (budget : Nat) : Reader Members := fun input => do
  match ← valueStart input with
  | '{' :: rest =>
      match budget with
      | 0 => .error (tooDeep ('{' :: rest))
      | budget + 1 => membersFrom (value budget) rest
  | rest => .error (wrongType "a map" rest)

/-! Whole documents. -/

def documentEnd (input : List Char) : Except Fault Unit :=
  match skipSpace input with
  | [] => .ok ()
  | rest => .error (.after .trailingText rest)

def readDocument {α : Type} (read : Reader α) (document : String) : Except Error α :=
  let input := document.toList
  let outcome : Except Fault α := do
    let (value, rest) ← read input
    documentEnd rest
    .ok value
  outcome.mapError fun fault => fault.toError input

def Value.ofText (document : String) : Except Error Value :=
  readDocument (value bracketBudget) document

end RouteForge.Json
