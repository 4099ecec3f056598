import RouteForge.Json.Printer
import RouteForge.Text.Lines

/-!
Object and list literals of a script, written as lines. A value of several lines starts on the line
of its key, and its other lines are indented below it; a comma goes to the end of the last line of
every property and item but the last.
-/

namespace RouteForge.Script

inductive KeyStyle where
  | bare
  | quoted
  deriving DecidableEq, Repr

mutual
inductive Term where
  | string (text : String)
  /-- Code that stands as it is, such as a name. -/
  | raw (code : String)
  | json (value : Json.Value)
  | list (items : List Object)

inductive Object where
  | mk (style : KeyStyle) (properties : List (String × Term))
end

def stringLiteral (text : String) : String :=
  Json.literal text

def margin : String := "  "

def indent (lines : List String) : List String :=
  lines.map fun line => margin ++ line

def withComma : List String → List String
  | [] => []
  | line :: [] => [line ++ ","]
  | line :: rest => line :: withComma rest

/-- Puts a key in front of the first line of its value and indents all of it. -/
def keyed (key : String) (lines : List String) : List String :=
  indent ((key ++ ": " ++ lines.headD "") :: lines.tail)

def keyText (style : KeyStyle) (key : String) : String :=
  match style with
  | .bare => key
  | .quoted => stringLiteral key

def joinLines (lines : List String) : String :=
  "\n".intercalate lines

mutual
def Term.lines : Term → List String
  | .string text => [stringLiteral text]
  | .raw code => [code]
  | .json value => Text.lines value.pretty
  | .list items => if items.isEmpty then ["[]"] else "[" :: itemLines items ++ ["]"]

def Object.lines : Object → List String
  | .mk style properties =>
      if properties.isEmpty then ["\x7b\x7d"]
      else "\x7b" :: propertyLines style properties ++ ["\x7d"]

def propertyLines (style : KeyStyle) : List (String × Term) → List String
  | [] => []
  | (key, term) :: [] => keyed (keyText style key) term.lines
  | (key, term) :: rest =>
      withComma (keyed (keyText style key) term.lines) ++ propertyLines style rest

def itemLines : List Object → List String
  | [] => []
  | item :: [] => indent item.lines
  | item :: rest => withComma (indent item.lines) ++ itemLines rest
end

def Term.text (term : Term) : String :=
  joinLines term.lines

namespace Object

def empty (style : KeyStyle) : Object := .mk style []

def add (object : Object) (key : String) (term : Term) : Object :=
  match object with
  | .mk style properties => .mk style (properties ++ [(key, term)])

def string (object : Object) (key text : String) : Object :=
  object.add key (.string text)

def raw (object : Object) (key code : String) : Object :=
  object.add key (.raw code)

def bool (object : Object) (key : String) (flag : Bool) : Object :=
  object.raw key (Json.boolText flag)

def boolIfGiven (object : Object) (key : String) : Option Bool → Object
  | none => object
  | some flag => object.bool key flag

def json (object : Object) (key : String) (value : Json.Value) : Object :=
  object.add key (.json value)

def list (object : Object) (key : String) (items : List Object) : Object :=
  object.add key (.list items)

def listIf (object : Object) (condition : Bool) (key : String) (items : List Object) : Object :=
  if condition then object.list key items else object

def text (object : Object) : String :=
  joinLines object.lines

end Object

end RouteForge.Script
