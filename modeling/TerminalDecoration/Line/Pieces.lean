/-
# Pieces of a line

The text for a style of several parts is cut at bars, one piece for each part. A backslash before a
bar makes it a plain bar of the piece; any other backslash stands for itself.
-/

namespace TerminalDecoration.Line

/-- The pieces of a text. Also the empty text has one. -/
def pieces : List Char → List (List Char)
  | [] => [[]]
  | '\\' :: '|' :: s => (pieces s).modifyHead ('|' :: ·)
  | '|' :: s => [] :: pieces s
  | c :: s => (pieces s).modifyHead (c :: ·)

/-- There is always a piece. -/
theorem pieces_ne_nil (s : List Char) : pieces s ≠ [] := by
  fun_induction pieces s with
  | case1 => simp
  | case2 s ih => simpa using ih
  | case3 => simp
  | case4 c s _ _ ih => simpa using ih

end TerminalDecoration.Line
