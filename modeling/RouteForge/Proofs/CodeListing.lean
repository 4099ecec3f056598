import RouteForge.Proofs.CodeText

/-!
What a builder writes, as a listing: the lines of a fragment from top to bottom, each with its level.
The builder appends the listing of a fragment at the depth it is at, and keeps that depth; so nodes
are written the same whatever nodes were written before them.
-/

namespace RouteForge.Code

open Builder (margin)

inductive Line where
  | blank
  | indented (level : Nat) (text : String)
  deriving DecidableEq, Repr

/-- Two spaces a level; a blank line has none at any level. -/
def Line.text : Line → String
  | .blank => "\n"
  | .indented level text => String.ofList (List.replicate (2 * level) ' ') ++ text ++ "\n"

mutual
def Fragment.lines (level : Nat) : Fragment → List Line
  | .line text => [.indented level text]
  | .blank => [.blank]
  | .comment text => [.indented level ("// " ++ text)]
  | .block header body close =>
      .indented level header :: listed (level + 1) body ++ (close.map (Line.indented level)).toList

def listed (level : Nat) : List Fragment → List Line
  | [] => []
  | fragment :: rest => fragment.lines level ++ listed level rest
end

def listing (lines : List Line) : String :=
  String.join (lines.map Line.text)

theorem listing_append (first second : List Line) :
    listing (first ++ second) = listing first ++ listing second := by
  simp [listing]

theorem listing_cons (line : Line) (rest : List Line) :
    listing (line :: rest) = line.text ++ listing rest := by
  simp [listing]

theorem listing_singleton (line : Line) : listing [line] = line.text := by
  simp [listing]

theorem margin_eq (level : Nat) : margin level = String.ofList (List.replicate (2 * level) ' ') := by
  induction level with
  | zero => rfl
  | succ level ih =>
      rw [margin, ih, Nat.mul_succ, Nat.add_comm, ← List.replicate_append_replicate,
        String.ofList_append]
      rfl

theorem lineText_eq (level : Nat) (text : String) :
    lineText level text = (Line.indented level text).text := by
  rw [lineText, margin_eq, Line.text]

mutual
theorem textAt_eq_listing (level : Nat) : (fragment : Fragment) →
    fragment.textAt level = listing (fragment.lines level)
  | .line text => by rw [Fragment.textAt, Fragment.lines, listing_singleton, lineText_eq]
  | .blank => by rw [Fragment.textAt, Fragment.lines, listing_singleton, Line.text]
  | .comment text => by
      rw [Fragment.textAt, Fragment.lines, listing_singleton, lineText_eq, commentText]
  | .block header body close => by
      have closing : (close.map (lineText level)).getD "" =
          listing (close.map (Line.indented level)).toList := by
        cases close with
        | none => rfl
        | some line => exact (lineText_eq level line).trans (listing_singleton _).symm
      rw [Fragment.textAt, fragmentsText_eq_listing (level + 1) body, closing, lineText_eq,
        Fragment.lines, listing_append, listing_cons]

theorem fragmentsText_eq_listing (level : Nat) : (fragments : List Fragment) →
    fragmentsText level fragments = listing (listed level fragments)
  | [] => rfl
  | fragment :: rest => by
      rw [fragmentsText, listed, listing_append, textAt_eq_listing level fragment,
        fragmentsText_eq_listing level rest]
end

namespace Builder

end Builder

end RouteForge.Code
