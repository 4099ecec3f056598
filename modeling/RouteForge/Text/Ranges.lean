/-!
Character classes as closed ranges of code points. A table is ascending and its ranges are apart,
so a class has one table.
-/

namespace RouteForge.Text

def inRanges (table : List (Nat × Nat)) (char : Char) : Bool :=
  table.any fun range => decide (range.1 ≤ char.toNat) && decide (char.toNat ≤ range.2)

theorem inRanges_iff (table : List (Nat × Nat)) (char : Char) :
    inRanges table char = true ↔
      ∃ range ∈ table, range.1 ≤ char.toNat ∧ char.toNat ≤ range.2 := by
  simp [inRanges]

end RouteForge.Text
