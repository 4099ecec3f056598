import RouteForge.Text.Letter

/-!
Names that an import may bind in a generated script, and the specifier that a component is
imported from.
-/

namespace RouteForge.Script

inductive NameError where
  | empty
  | badStart
  | badCharacter
  | reserved
  | restricted
  | taken
  deriving DecidableEq, Repr

def NameError.reason : NameError → String
  | .empty => "binding cannot be empty"
  | .badStart => "binding must start with a letter, '_' or '$'"
  | .badCharacter => "binding may only contain letters, digits, '_' and '$'"
  | .reserved => "binding is a reserved word"
  | .restricted => "binding is not allowed in strict mode"
  | .taken => "binding collides with a generated export"

def reservedWords : List String := [
  "await", "break", "case", "catch", "class", "const", "continue", "debugger", "default",
  "delete", "do", "else", "enum", "export", "extends", "false", "finally", "for", "function",
  "if", "implements", "import", "in", "instanceof", "interface", "let", "new", "null",
  "package", "private", "protected", "public", "return", "static", "super", "switch", "this",
  "throw", "true", "try", "typeof", "var", "void", "while", "with", "yield"]

/-- Words that strict code may not bind although they are not reserved. -/
def restrictedNames : List String := ["arguments", "eval"]

def exportedNames : List String := ["mtype", "routes", "moduleInfo"]

def isReserved (name : String) : Bool :=
  reservedWords.contains name

def startsName (char : Char) : Bool :=
  Text.isAlphabetic char || char = '_' || char = '$'

def continuesName (char : Char) : Bool :=
  Text.isAlphanumeric char || char = '_' || char = '$'

def nameError? (name : String) : Option NameError :=
  match name.toList with
  | [] => some .empty
  | first :: rest =>
      if !startsName first then some .badStart
      else if !rest.all continuesName then some .badCharacter
      else if isReserved name then some .reserved
      else if restrictedNames.contains name then some .restricted
      else if exportedNames.contains name then some .taken
      else none

/-- A path that starts with a point, a slash or an at sign stands for itself; any other is
relative to the importing file. -/
def importSpecifier (component : String) : String :=
  match component.toList.head? with
  | some '.' => component
  | some '/' => component
  | some '@' => component
  | _ => "./" ++ component

end RouteForge.Script
