import RouteForge.Code.Builder
import RouteForge.Script.Literal

/-!
The statements that a generated script is made of, as fragments of code.
-/

namespace RouteForge.Script

open Code (Fragment)

def commaSeparated (names : List String) : String :=
  ", ".intercalate names

def fragmentsOfText (text : String) : List Fragment :=
  (Text.lines text).map Fragment.line

structure Import where
  specifier : String
  defaultName : Option String
  names : List String
  deriving DecidableEq, Repr

namespace Import

def clause (statement : Import) : String :=
  let braced := "\x7b " ++ commaSeparated statement.names ++ " \x7d"
  match statement.defaultName, statement.names with
  | some name, [] => name ++ " from "
  | some name, _ :: _ => name ++ ", " ++ braced ++ " from "
  | none, _ :: _ => braced ++ " from "
  | none, [] => ""

def text (statement : Import) : String :=
  "import " ++ statement.clause ++ stringLiteral statement.specifier ++ ";"

def fragments (statement : Import) : List Fragment :=
  [.line statement.text]

def ofDefault (specifier name : String) : Import :=
  ⟨specifier, some name, []⟩

def ofNames (specifier : String) (names : List String) : Import :=
  ⟨specifier, none, names⟩

end Import

/-- An export of a name as the default; without a name it is no statement at all. -/
structure Export where
  name : Option String
  deriving DecidableEq, Repr

def Export.fragments (statement : Export) : List Fragment :=
  statement.name.toList.map fun name => .line ("export default " ++ name ++ ";")

structure Constant where
  name : String
  value : String
  isExported : Bool
  deriving DecidableEq, Repr

namespace Constant

def appendToLast (suffix : String) : List String → List String
  | [] => []
  | line :: [] => [line ++ suffix]
  | line :: rest => line :: appendToLast suffix rest

/-- The value may have several lines; the statement ends on the last of them. -/
def fragments (statement : Constant) : List Fragment :=
  let keyword := if statement.isExported then "export const " else "const "
  let lines := Text.lines statement.value
  let first := keyword ++ statement.name ++ " = " ++ lines.headD ""
  (appendToLast ";" (first :: lines.tail)).map Fragment.line

end Constant

inductive Binding where
  | declared
  | exported
  | exportedAsDefault
  | assignedTo (target : String)
  deriving DecidableEq, Repr

structure Function where
  name : String
  parameters : List String
  binding : Binding
  body : List Fragment
  deriving Repr

def callHead (name : String) (parameters : List String) : String :=
  name ++ "(" ++ commaSeparated parameters ++ ") \x7b"

def Function.fragments (function : Function) : List Fragment :=
  let signature := "function " ++ callHead function.name function.parameters
  let (header, close) := match function.binding with
    | .declared => (signature, "\x7d")
    | .exported => ("export " ++ signature, "\x7d")
    | .exportedAsDefault => ("export default " ++ signature, "\x7d")
    | .assignedTo target => (target ++ " = " ++ signature, "\x7d;")
  [.block header function.body (some close)]

structure Method where
  name : String
  parameters : List String
  body : List Fragment
  deriving Repr

def Method.fragments (method : Method) : List Fragment :=
  [.block (callHead method.name method.parameters) method.body (some "\x7d,")]

def defaultObject (methods : List Method) : List Fragment :=
  [.block "export default \x7b" (methods.flatMap Method.fragments) (some "\x7d;")]

def guarded (condition : String) (lines : List String) : Fragment :=
  .block ("if (" ++ condition ++ ") \x7b") (lines.map Fragment.line) (some "\x7d")

end RouteForge.Script
