/-
# Runs of select sequences

A single is a select sequence with exactly one parameter; a run is a block of at least two singles
side by side. Merging turns the first run of a text into one sequence with all its parameters, and
does so at every place where the text of that run stands.
-/

import TerminalDecoration.Control
import TerminalDecoration.Text.Lexeme

namespace TerminalDecoration.Control

open Text (Lexeme)

/-- Reads one select sequence with one parameter of decimal digits. -/
def readSingle : List Char → Option (List Char × List Char)
  | '\x1b' :: '[' :: body =>
    match body.takeWhile Char.isDigit, body.dropWhile Char.isDigit with
    | d :: digits, 'm' :: rest => some (d :: digits, rest)
    | _, _ => none
  | _ => none

/-- A single read off the front is written back by `select`. -/
theorem eq_select_of_readSingle {s p rest : List Char} (h : readSingle s = some (p, rest)) :
    s = select [p] ++ rest := by
  unfold readSingle at h
  split at h
  · rename_i body
    split at h
    · rename_i d digits after htake hdrop
      cases h
      have hbody := List.takeWhile_append_dropWhile (p := Char.isDigit) (l := body)
      rw [htake, hdrop] at hbody
      simp [select, escape, ← hbody]
    · simp at h
  · simp at h

/-- The form of a select sequence with one parameter. -/
def single : Lexeme (List Char) where
  read := readSingle
  write p := select [p]
  eq_of_read := eq_select_of_readSingle
  write_ne_nil _ := by simp [select]

/-- Reads singles as long as they follow one another. -/
def readSingles (s : List Char) : List (List Char) × List Char :=
  match _h : readSingle s with
  | some (p, rest) => (p :: (readSingles rest).1, (readSingles rest).2)
  | none => ([], s)
termination_by s.length
decreasing_by all_goals exact single.length_lt_of_read ‹_›

/-- The text of singles side by side. -/
def writeSingles (ps : List (List Char)) : List Char := ps.flatMap fun p => select [p]

/-- The singles at the front and what follows them make up the whole text. -/
theorem writeSingles_append_readSingles (s : List Char) :
    writeSingles (readSingles s).1 ++ (readSingles s).2 = s := by
  fun_induction readSingles s with
  | case1 s p rest h ih =>
    rw [eq_select_of_readSingle h]
    simpa [writeSingles] using ih
  | case2 => rfl

/-- Reads a whole run, which has at least two singles. -/
def readRun (s : List Char) : Option (List (List Char) × List Char) :=
  match readSingles s with
  | (p :: q :: ps, rest) => some (p :: q :: ps, rest)
  | _ => none

/-- The form of a block of at least two singles. -/
def run : Lexeme (List (List Char)) where
  read := readRun
  write := writeSingles
  eq_of_read {s ps rest} h := by
    have hs := writeSingles_append_readSingles s
    unfold readRun at h
    split at h
    · rename_i heq
      cases h
      rw [heq] at hs
      exact hs.symm
    · simp at h
  write_ne_nil {s ps rest} h := by
    unfold readRun at h
    split at h
    · cases h
      simp [writeSingles, select]
    · simp at h

/-- The parameters of the first run. -/
def firstRun? (s : List Char) : Option (List (List Char)) := (run.occurrences s).head?

/-- The first run merged into one sequence, wherever its text stands. Other runs stay; a merged
sequence is no single, so merging once more takes the next run. -/
def mergeFirstRun (s : List Char) : List Char :=
  match firstRun? s with
  | none => s
  | some ps => (Lexeme.word (writeSingles ps)).substitute (fun _ => select ps) s

end TerminalDecoration.Control
