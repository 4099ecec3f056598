import RouteForge.Json.Fault

/-!
Writing values. A string is written between quotation marks; a quotation mark, a backslash and a
control character are escaped, all else stands for itself. The compact form has no blanks; the
pretty form puts each item on a line of its own, two spaces deeper than its brackets.
-/

namespace RouteForge.Json

def hexDigit (value : Nat) : Char :=
  if value < 10 then Char.ofNat ('0'.toNat + value) else Char.ofNat ('a'.toNat + (value - 10))

def writtenChar (char : Char) : List Char :=
  match char with
  | '"' => ['\\', '"']
  | '\\' => ['\\', '\\']
  | '\x08' => ['\\', 'b']
  | '\x0c' => ['\\', 'f']
  | '\n' => ['\\', 'n']
  | '\r' => ['\\', 'r']
  | '\t' => ['\\', 't']
  | _ =>
      if char.toNat < 0x20 then
        ['\\', 'u', '0', '0', hexDigit (char.toNat / 16), hexDigit (char.toNat % 16)]
      else
        [char]

def literalChars (text : List Char) : List Char :=
  '"' :: text.flatMap writtenChar ++ ['"']

def literal (text : String) : String :=
  String.ofList (literalChars text.toList)

def boolText (flag : Bool) : String :=
  if flag then "true" else "false"

mutual
def compactChars : Value → List Char
  | .null => "null".toList
  | .bool flag => (boolText flag).toList
  | .number number => number.text.toList
  | .string text => literalChars text.toList
  | .array items => '[' :: compactItems items ++ [']']
  | .object members => '{' :: compactMembers members ++ ['}']

def compactItems : List Value → List Char
  | [] => []
  | item :: [] => compactChars item
  | item :: rest => compactChars item ++ ',' :: compactItems rest

def compactMembers : List (String × Value) → List Char
  | [] => []
  | (key, value) :: [] => literalChars key.toList ++ ':' :: compactChars value
  | (key, value) :: rest =>
      literalChars key.toList ++ ':' :: compactChars value ++ ',' :: compactMembers rest
end

def lineBreak (depth : Nat) : List Char :=
  '\n' :: List.replicate (2 * depth) ' '

mutual
def prettyChars (depth : Nat) : Value → List Char
  | .null => "null".toList
  | .bool flag => (boolText flag).toList
  | .number number => number.text.toList
  | .string text => literalChars text.toList
  | .array items =>
      if items.isEmpty then ['[', ']']
      else
        '[' :: lineBreak (depth + 1) ++ prettyItems (depth + 1) items ++ lineBreak depth ++ [']']
  | .object members =>
      if members.isEmpty then ['{', '}']
      else
        '{' :: lineBreak (depth + 1) ++ prettyMembers (depth + 1) members ++
          lineBreak depth ++ ['}']

def prettyItems (depth : Nat) : List Value → List Char
  | [] => []
  | item :: [] => prettyChars depth item
  | item :: rest => prettyChars depth item ++ ',' :: lineBreak depth ++ prettyItems depth rest

def prettyMembers (depth : Nat) : List (String × Value) → List Char
  | [] => []
  | (key, value) :: [] => literalChars key.toList ++ ':' :: ' ' :: prettyChars depth value
  | (key, value) :: rest =>
      literalChars key.toList ++ ':' :: ' ' :: prettyChars depth value ++
        ',' :: lineBreak depth ++ prettyMembers depth rest
end

def Value.compact (value : Value) : String :=
  String.ofList (compactChars value)

def Value.pretty (value : Value) : String :=
  String.ofList (prettyChars 0 value)

end RouteForge.Json
