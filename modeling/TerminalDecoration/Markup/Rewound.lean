/-
# Rewound lines

On a terminal a rewind draws the rest of its line over the line above. A plain sink would show both,
so the overwriting lines are left out there: a line with a rewind token keeps what stands before its
last one, and swallows the rest of itself with a fixed number of lines after it. All swallowed lines
must be ended by a newline; a line that has too few of them after it stays whole.
-/

import TerminalDecoration.Markup.Token

namespace TerminalDecoration.Markup

/-- The first line of a text and what follows its newline, if the line has one. -/
def breakLine? : List Char → Option (List Char × List Char)
  | [] => none
  | c :: s =>
    if c = '\n' then some ([], s)
    else (breakLine? s).map fun (line, after) => (c :: line, after)

/-- A broken text is its first line, the newline and the rest. -/
theorem eq_of_breakLine? {s line after : List Char} (h : breakLine? s = some (line, after)) :
    s = line ++ '\n' :: after := by
  induction s generalizing line with
  | nil => simp [breakLine?] at h
  | cons c s ih =>
    unfold breakLine? at h
    split at h
    · rename_i hc
      cases h
      simp [hc]
    · obtain ⟨⟨line', after'⟩, hs, heq⟩ := Option.map_eq_some_iff.1 h
      cases heq
      simp [ih hs]

/-- What follows the first `count` lines, if all of them are ended. -/
def afterLines? : Nat → List Char → Option (List Char)
  | 0, s => some s
  | count + 1, s => (breakLine? s).bind fun (_, after) => afterLines? count after

/-- Skipping lines gives an end of the text. -/
theorem suffix_of_afterLines? {count : Nat} {s rest : List Char}
    (h : afterLines? count s = some rest) : rest <:+ s := by
  induction count generalizing s with
  | zero => cases h; exact List.suffix_refl _
  | succ count ih =>
    obtain ⟨⟨line, after⟩, hs, hrest⟩ := Option.bind_eq_some_iff.1 h
    rw [eq_of_breakLine? hs]
    exact (ih hrest).trans ⟨line ++ ['\n'], by simp⟩

/-- The text before the last place where the word stands. -/
def beforeLast? (word : List Char) : List Char → Option (List Char)
  | [] => none
  | c :: s =>
    match beforeLast? word s with
    | some start => some (c :: start)
    | none => if (Text.after? word (c :: s)).isSome then some [] else none

/-- The text without its rewound lines, each rewind swallowing `lines` lines. Once a rewind had too
few lines after it, so has every later one, and `exhausted` says to look no further. -/
def dropRewoundFrom (lines : Nat) (exhausted : Bool) (s : List Char) : List Char :=
  match _hline : breakLine? s with
  | none => s
  | some (line, after) =>
    match if exhausted then none else beforeLast? rewindText line with
    | none => line ++ '\n' :: dropRewoundFrom lines exhausted after
    | some start =>
      match _hafter : afterLines? (lines - 1) after with
      | some rest => start ++ dropRewoundFrom lines exhausted rest
      | none => line ++ '\n' :: dropRewoundFrom lines true after
termination_by s.length
decreasing_by
  all_goals
    rw [eq_of_breakLine? ‹breakLine? s = some (line, after)›]
    simp only [List.length_append, List.length_cons]
  · omega
  · have := (suffix_of_afterLines? ‹afterLines? _ _ = _›).length_le
    omega
  · omega

/-- The text without its rewound lines, each rewind swallowing `lines` lines. -/
def dropRewound (lines : Nat) (s : List Char) : List Char := dropRewoundFrom lines false s

end TerminalDecoration.Markup
