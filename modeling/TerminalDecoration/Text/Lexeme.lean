/-
# Lexemes and the leftmost scan

A lexeme is a form that a piece of text can have: a reader that looks for it at the front of a
text, and a writer that gives back exactly what was read. The scan walks a text from the left,
takes a lexeme wherever one begins and a single character everywhere else, so occurrences never
overlap and nothing of the text is lost (`flatMap_scan`). Substituting, cutting and searching are
all functions of the scan.
-/

namespace TerminalDecoration.Text

/-- What follows a word at the front of a text, if the text begins with the word. -/
def after? : List Char → List Char → Option (List Char)
  | [], s => some s
  | _ :: _, [] => none
  | a :: w, b :: s => if a = b then after? w s else none

/-- A word is found at the front of a text exactly when the text is the word and the rest. -/
theorem after?_eq_some_iff {w s rest : List Char} : after? w s = some rest ↔ s = w ++ rest := by
  fun_induction after? w s with
  | case1 => simp
  | case2 => simp
  | case3 w b s ih => simp [ih]
  | case4 a w b s hne => simp [Ne.symm hne]

/-- A form of text, with its reader and its writer. -/
structure Lexeme (α : Type) where
  /-- What the text begins with, and the text after it. -/
  read : List Char → Option (α × List Char)
  /-- The text that stands for a value. -/
  write : α → List Char
  /-- Reading takes exactly the written form off the front. -/
  eq_of_read : ∀ {s a rest}, read s = some (a, rest) → s = write a ++ rest
  /-- Reading takes at least one character. -/
  write_ne_nil : ∀ {s a rest}, read s = some (a, rest) → write a ≠ []

namespace Lexeme

variable {α : Type}

/-- What follows a lexeme is shorter than the text that began with it. -/
theorem length_lt_of_read (l : Lexeme α) {s : List Char} {a : α} {rest : List Char}
    (h : l.read s = some (a, rest)) : rest.length < s.length := by
  have hpos := List.length_pos_iff.2 (l.write_ne_nil h)
  rw [l.eq_of_read h, List.length_append]
  omega

/-- A text as single characters and occurrences of the lexeme, leftmost occurrences first. -/
def scan (l : Lexeme α) : List Char → List (Char ⊕ α)
  | [] => []
  | c :: s =>
    match _h : l.read (c :: s) with
    | some (a, rest) => .inr a :: l.scan rest
    | none => .inl c :: l.scan s
termination_by s => s.length
decreasing_by
  · exact l.length_lt_of_read ‹_›
  · simp

/-- The text of one scanned item, an occurrence written as `f` says. -/
def item (f : α → List Char) : Char ⊕ α → List Char
  | .inl c => [c]
  | .inr a => f a

/-- Writing every scanned item back gives the text that was scanned. -/
theorem flatMap_scan (l : Lexeme α) (s : List Char) :
    (l.scan s).flatMap (item l.write) = s := by
  fun_induction l.scan s with
  | case1 => rfl
  | case2 c s a rest h ih => simp [item, ih, ← l.eq_of_read h]
  | case3 c s h ih => simp [item, ih]

/-- The values of all occurrences, from left to right. -/
def occurrences (l : Lexeme α) (s : List Char) : List α :=
  (l.scan s).filterMap Sum.getRight?

/-- Every occurrence replaced, everything else kept in place. -/
def substitute (l : Lexeme α) (f : α → List Char) (s : List Char) : List Char :=
  (l.scan s).flatMap (item f)

/-- The text before the first occurrence, and the text after each. -/
def cut (l : Lexeme α) (s : List Char) : List Char × List (List Char) :=
  (l.scan s).foldr
    (fun
      | .inl c, (first, more) => (c :: first, more)
      | .inr _, (first, more) => ([], first :: more))
    ([], [])

/-- The texts between occurrences; there is always one more of them than occurrences. -/
def pieces (l : Lexeme α) (s : List Char) : List (List Char) :=
  (l.cut s).1 :: (l.cut s).2

/-- A fixed word. The empty word occurs nowhere. -/
def word (w : List Char) : Lexeme Unit where
  read s := if w = [] then none else (after? w s).map ((), ·)
  write _ := w
  eq_of_read {s _ rest} h := by
    split at h
    · simp at h
    · obtain ⟨t, ht, hrest⟩ := Option.map_eq_some_iff.1 h
      cases hrest
      exact after?_eq_some_iff.1 ht
  write_ne_nil {s _ rest} h := by
    split at h
    · simp at h
    · assumption

end Lexeme

end TerminalDecoration.Text
