import RouteForge.Json.Scan

/-!
Passing over a value that nobody asked for. The scan keeps the open brackets on a stack, so depth
is no limit to it, and it is looser than reading: numbers may be of any size, and escaped units
need not pair.
-/

namespace RouteForge.Json

inductive Bracket where
  | list
  | object
  deriving DecidableEq

def Bracket.closing : Bracket → Char
  | .list => ']'
  | .object => '}'

def Bracket.unfinished : Bracket → Cause
  | .list => .unfinishedList
  | .object => .unfinishedObject

def Bracket.missingComma : Bracket → Cause
  | .list => .missingListComma
  | .object => .missingObjectComma

def skipEscape : List Char → Except Fault (List Char)
  | [] => .error (.before .unfinishedString [])
  | 'u' :: rest => do
      let (_, rest) ← hexUnit rest
      .ok rest
  | char :: rest =>
      if (shortEscape? char).isSome then .ok rest
      else .error (.after .unknownEscape (char :: rest))

def skipStringFrom : List Char → List Char → Except Fault (List Char)
  | _, [] => .error (.before .unfinishedString [])
  | _, '"' :: rest => .ok rest
  | [], input => .error (.before .unfinishedString input)
  | _ :: bound, '\\' :: rest => do
      let rest ← skipEscape rest
      skipStringFrom bound rest
  | _ :: bound, char :: rest =>
      if isControl char then .error (.before .controlCharacter (char :: rest))
      else skipStringFrom bound rest

def skipString (input : List Char) : Except Fault (List Char) :=
  skipStringFrom input input

def skipNumber (input : List Char) : Except Fault (List Char) := do
  let (_, rest) ← numeral .malformedNumber input
  .ok rest

inductive Standing where
  | beforeValue
  | afterValue
  | afterOpening

def skipToken : List Char → Except Fault (Option Bracket × List Char)
  | [] => .error (.after .unfinishedValue [])
  | 'n' :: rest => return (none, ← word ['u', 'l', 'l'] rest)
  | 't' :: rest => return (none, ← word ['r', 'u', 'e'] rest)
  | 'f' :: rest => return (none, ← word ['a', 'l', 's', 'e'] rest)
  | '-' :: rest => return (none, ← skipNumber rest)
  | '"' :: rest => return (none, ← skipString rest)
  | '[' :: rest => .ok (some .list, rest)
  | '{' :: rest => .ok (some .object, rest)
  | char :: rest => do
      if char.isDigit then return (none, ← skipNumber (char :: rest))
      else .error (.after .expectedValue (char :: rest))

def skipColon (input : List Char) : Except Fault (List Char) :=
  match skipSpace input with
  | [] => .error (.after .unfinishedObject [])
  | ':' :: rest => .ok rest
  | rest => .error (.after .missingColon rest)

def skipKey (input : List Char) : Except Fault (List Char) :=
  match skipSpace input with
  | [] => .error (.after .unfinishedObject [])
  | '"' :: rest => do
      let rest ← skipString rest
      skipColon rest
  | rest => .error (.after .keyNotString rest)

def skipToValue : Bracket → List Char → Except Fault (List Char)
  | .list, input => .ok input
  | .object, input => skipKey input

def skipStep : Standing → List Bracket → List Char →
    Except Fault (Standing × List Bracket × List Char)
  | .beforeValue, opened, input => do
      let (bracket, rest) ← skipToken (skipSpace input)
      match bracket with
      | none => .ok (.afterValue, opened, rest)
      | some bracket => .ok (.afterOpening, bracket :: opened, rest)
  | _, [], input => .ok (.afterValue, [], input)
  | standing, bracket :: opened, input =>
      match skipSpace input with
      | [] => .error (.after bracket.unfinished [])
      | char :: rest =>
          if char = bracket.closing then
            .ok (.afterValue, opened, rest)
          else
            match standing with
            | .afterOpening => do
                let rest ← skipToValue bracket (char :: rest)
                .ok (.beforeValue, bracket :: opened, rest)
            | _ =>
                if char = ',' then do
                  let rest ← skipToValue bracket rest
                  .ok (.beforeValue, bracket :: opened, rest)
                else
                  .error (.after bracket.missingComma (char :: rest))

/-- Two steps at most are taken for each character, of which one may read nothing. -/
def skipFrom : Nat → Standing → List Bracket → List Char → Except Fault (List Char)
  | _, .afterValue, [], input => .ok input
  | 0, _, _, input => .error (.after .unfinishedValue input)
  | fuel + 1, standing, opened, input => do
      let (standing, opened, rest) ← skipStep standing opened input
      skipFrom fuel standing opened rest

def skipValue (input : List Char) : Except Fault (List Char) :=
  skipFrom (2 * input.length + 2) .beforeValue [] input

end RouteForge.Json
