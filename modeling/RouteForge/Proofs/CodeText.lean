import RouteForge.Code.Builder

/-!
What fragments add to a text does not depend on what was written before them.
-/

namespace RouteForge.Code

open Builder (margin)

def lineText (depth : Nat) (line : String) : String :=
  margin depth ++ line ++ "\n"

mutual
def Fragment.textAt (depth : Nat) : Fragment → String
  | .line text => lineText depth text
  | .blank => "\n"
  | .comment text => lineText depth (commentText text)
  | .block header body close =>
      lineText depth header ++ fragmentsText (depth + 1) body ++
        (close.map (lineText depth)).getD ""

def fragmentsText (depth : Nat) : List Fragment → String
  | [] => ""
  | fragment :: rest => fragment.textAt depth ++ fragmentsText depth rest
end

theorem fragmentsText_append (depth : Nat) (first second : List Fragment) :
    fragmentsText depth (first ++ second) =
      fragmentsText depth first ++ fragmentsText depth second := by
  induction first with
  | nil => simp [fragmentsText]
  | cons fragment rest ih => simp [fragmentsText, ih, String.append_assoc]

namespace Builder

def append (builder : Builder) (text : String) : Builder :=
  { builder with text := builder.text ++ text }

theorem append_append (builder : Builder) (first second : String) :
    (builder.append first).append second = builder.append (first ++ second) := by
  simp [append, String.append_assoc]

theorem pushLine_eq (builder : Builder) (line : String) :
    builder.pushLine line = builder.append (lineText builder.depth line) := by
  simp [pushLine, append, lineText, String.append_assoc]

theorem pushClose_eq (builder : Builder) (close : Option String) :
    builder.pushClose close =
      builder.append ((close.map (lineText builder.depth)).getD "") := by
  cases close with
  | none => simp [pushClose, append]
  | some line => exact builder.pushLine_eq line

/-- A body is written one level deeper, and the builder comes back to the level it had. -/
theorem shallower_deeper_append (builder : Builder) (text : String) :
    (builder.deeper.append text).shallower = builder.append text := by
  simp [deeper, shallower, append]

mutual
theorem apply_eq : (fragment : Fragment) → (builder : Builder) →
    apply fragment builder = builder.append (fragment.textAt builder.depth)
  | .line text, builder => builder.pushLine_eq text
  | .blank, _ => rfl
  | .comment text, builder => builder.pushLine_eq (commentText text)
  | .block header body close, builder => by
      rw [apply, applyAll_eq body, shallower_deeper_append, pushLine_eq, append_append,
        pushClose_eq, append_append, Fragment.textAt]
      rfl

theorem applyAll_eq : (fragments : List Fragment) → (builder : Builder) →
    applyAll fragments builder = builder.append (fragmentsText builder.depth fragments)
  | [], builder => by simp [applyAll, fragmentsText, append]
  | fragment :: rest, builder => by
      rw [applyAll, apply_eq fragment, applyAll_eq rest, append_append, fragmentsText]
      rfl
end

end Builder

theorem render_eq (fragments : List Fragment) : render fragments = fragmentsText 0 fragments := by
  rw [render, Builder.emit, List.foldl_cons, List.foldl_nil, Builder.applyAll_eq]
  exact String.empty_append

end RouteForge.Code
