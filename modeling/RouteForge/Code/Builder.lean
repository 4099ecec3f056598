/-!
Code as fragments, and the builder that writes them. The builder holds the depth at which lines are
indented, two spaces a level, and the text written so far; a block writes its body one level deeper
than its header and its closing line.
-/

namespace RouteForge.Code

inductive Fragment where
  | line (text : String)
  | blank
  | comment (text : String)
  | block (header : String) (body : List Fragment) (close : Option String)
  deriving Repr

def indentation : String := "  "

def commentText (text : String) : String :=
  "// " ++ text

structure Builder where
  depth : Nat
  text : String
  deriving DecidableEq, Repr

namespace Builder

def start : Builder := ⟨0, ""⟩

def margin : Nat → String
  | 0 => ""
  | depth + 1 => indentation ++ margin depth

def pushLine (builder : Builder) (line : String) : Builder :=
  { builder with text := builder.text ++ margin builder.depth ++ line ++ "\n" }

def pushBlank (builder : Builder) : Builder :=
  { builder with text := builder.text ++ "\n" }

def deeper (builder : Builder) : Builder :=
  { builder with depth := builder.depth + 1 }

def shallower (builder : Builder) : Builder :=
  { builder with depth := builder.depth - 1 }

def pushClose (builder : Builder) : Option String → Builder
  | none => builder
  | some line => builder.pushLine line

mutual
def apply : Fragment → Builder → Builder
  | .line text, builder => builder.pushLine text
  | .blank, builder => builder.pushBlank
  | .comment text, builder => builder.pushLine (commentText text)
  | .block header body close, builder =>
      (applyAll body (builder.pushLine header).deeper).shallower.pushClose close

def applyAll : List Fragment → Builder → Builder
  | [], builder => builder
  | fragment :: rest, builder => applyAll rest (apply fragment builder)
end

/-- Writes nodes in turn, each with all its fragments. -/
def emit (nodes : List (List Fragment)) (builder : Builder) : Builder :=
  nodes.foldl (fun builder fragments => applyAll fragments builder) builder

end Builder

def render (fragments : List Fragment) : String :=
  (Builder.emit [fragments] Builder.start).text

end RouteForge.Code
