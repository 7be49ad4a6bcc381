/-
# Ranges of numbers

Classes of characters are given by tables of ranges.
-/

namespace TerminalDecoration.Text

/-- Whether one of the ranges, each given by its first and its last number, holds the number. -/
def inRanges (ranges : List (Nat × Nat)) (n : Nat) : Bool :=
  ranges.any fun (first, last) => decide (first ≤ n ∧ n ≤ last)

end TerminalDecoration.Text
