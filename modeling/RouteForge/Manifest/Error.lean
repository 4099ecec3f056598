import RouteForge.Disk.Cause
import RouteForge.Manifest.Span

/-!
Why a document is no manifest: it cannot be read, it is malformed, a required text is empty, or a
module name cannot name a directory. Each error tells its place in the document where it has one.
-/

namespace RouteForge

structure Source where
  text : String
  name : String
  deriving DecidableEq, Repr

inductive NameFault where
  | empty
  | relative
  | separated
  deriving DecidableEq, Repr

def NameFault.reason : NameFault → String
  | .empty => "module name cannot be empty"
  | .relative => "module name cannot be a relative directory reference"
  | .separated => "module name must be a single path segment"

inductive ManifestError where
  | unreadable (path : String) (cause : Disk.Cause)
  | malformed (source : Source) (span : Option Span) (error : Json.Error)
  | invalid (source : Source) (span : Option Span) (message : String)
  | moduleName (source : Source) (span : Option Span) (name context : String) (fault : NameFault)
  deriving Repr

namespace ManifestError

def message : ManifestError → String
  | .unreadable path _ => "failed to read '" ++ path ++ "'"
  | .malformed .. => "failed to parse module-config.json"
  | .invalid _ _ message => message
  | .moduleName _ _ name context _ => "invalid module name '" ++ name ++ "' in " ++ context

def code : ManifestError → String
  | .unreadable .. => "ecat::io"
  | .malformed .. => "ecat::parse_error"
  | .invalid .. => "ecat::validation_error"
  | .moduleName .. => "ecat::invalid_module_name"

def help : ManifestError → Option String
  | .unreadable .. => some "pass the directory that contains module-config.json"
  | .malformed .. => none
  | .invalid .. => none
  | .moduleName _ _ _ _ fault =>
      some (fault.reason ++ ". The module name becomes a directory below the base path.")

def span : ManifestError → Option Span
  | .unreadable .. => none
  | .malformed _ span _ => span
  | .invalid _ span _ => span
  | .moduleName _ span _ _ _ => span

def labelText : ManifestError → String
  | .unreadable .. => ""
  | .malformed .. => "parse error here"
  | .invalid _ _ message => message
  | .moduleName .. => "invalid module name"

def labels (error : ManifestError) : List (Span × String) :=
  error.span.toList.map fun span => (span, error.labelText)

end ManifestError

/-- A malformed document; the place of the fault is looked up in the source, whatever text the
fault was found in. -/
def Source.malformed (source : Source) (error : Json.Error) : ManifestError :=
  let span := error.position.bind fun position =>
    Span.ofPosition source.text.toList position.line position.column
  .malformed source span error

end RouteForge
