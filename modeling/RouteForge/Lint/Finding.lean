import RouteForge.Manifest.Document

/-!
Findings about a whole manifest, and diagnostics, the form in which they are reported.
-/

namespace RouteForge

inductive Severity where
  | error
  | warning
  deriving DecidableEq, Repr

def Severity.name : Severity → String
  | .error => "error"
  | .warning => "warning"

structure Diagnostic where
  severity : Severity
  phase : String
  message : String
  location : Option String
  deriving DecidableEq, Repr

namespace Diagnostic

def isError (diagnostic : Diagnostic) : Bool :=
  diagnostic.severity = .error

def isWarning (diagnostic : Diagnostic) : Bool :=
  diagnostic.severity = .warning

def placedAt (diagnostic : Diagnostic) (location : String) : Diagnostic :=
  { diagnostic with location := some location }

def text (diagnostic : Diagnostic) : String :=
  let line := diagnostic.severity.name ++ ": " ++ diagnostic.message
  match diagnostic.location with
  | none => line
  | some location => line ++ " (at " ++ location ++ ")"

end Diagnostic

inductive Finding where
  | repeatedMtype (mtype module firstUser : String)
  | repeatedModule (module : String)
  | noRoutes (module : String)
  | emptyLayout (module route : String)
  | ignoredChildren (module route : String)
  deriving DecidableEq, Repr

namespace Finding

/-- Only a repeated discriminator makes a manifest unusable. -/
def severity : Finding → Severity
  | .repeatedMtype .. => .error
  | _ => .warning

def message : Finding → String
  | .repeatedMtype mtype module firstUser =>
      "duplicate mtype '" ++ mtype ++ "' in module '" ++ module ++
        "' (already used by module '" ++ firstUser ++ "')"
  | .repeatedModule module =>
      "module '" ++ module ++ "' is declared more than once; its files will be overwritten"
  | .noRoutes module => "module '" ++ module ++ "' has no routes"
  | .emptyLayout module route =>
      "route '" ++ route ++ "' in module '" ++ module ++ "' uses Layout but has no children"
  | .ignoredChildren module route =>
      "route '" ++ route ++ "' in module '" ++ module ++
        "' has children, which the flat variant ignores"

def location : Finding → String
  | .repeatedMtype _ module _ => "sub_modules." ++ module ++ ".mtype"
  | .repeatedModule module => "sub_modules." ++ module
  | .noRoutes module => "sub_modules." ++ module ++ ".module_routes"
  | .emptyLayout module route => "sub_modules." ++ module ++ "." ++ route
  | .ignoredChildren module route => "sub_modules." ++ module ++ "." ++ route

def phase : String := "validate"

def diagnostic (finding : Finding) : Diagnostic :=
  ⟨finding.severity, phase, finding.message, some finding.location⟩

def isError (finding : Finding) : Bool :=
  finding.severity = .error

end Finding

end RouteForge
