/-
# Erasing select sequences

Without its select sequences a text shows the same characters in the same places: nothing is left of
a code but the rewind, which is no select sequence. Merging a run joins sequences, so it makes no
difference to what is left.
-/

import TerminalDecoration.Proofs.Attribute
import TerminalDecoration.Proofs.Control.Event
import TerminalDecoration.Proofs.Text.Parts
import TerminalDecoration.Palette

namespace TerminalDecoration.Control

open Text (Lexeme)

/-! ## Sequences of one parameter -/

/-- The form of a select sequence with one parameter. -/
theorem single_read_eq_some_iff {s p rest : List Char} :
    single.read s = some (p, rest) ↔ IsParameter p ∧ s = select [p] ++ rest := by
  constructor
  · intro hread
    exact ⟨isParameter_of_readSingle hread, eq_select_of_readSingle hread⟩
  · rintro ⟨⟨hne, hdigits⟩, rfl⟩
    obtain ⟨d, digits, rfl⟩ := List.exists_cons_of_ne_nil hne
    have hm : Char.isDigit 'm' = false := by decide
    have hsplit : select [d :: digits] ++ rest =
        '\x1b' :: '[' :: ((d :: digits) ++ 'm' :: rest) := by
      simp [select, escape]
    show readSingle (select [d :: digits] ++ rest) = some (d :: digits, rest)
    simp only [hsplit, readSingle, List.takeWhile_append_of_pos hdigits,
      List.dropWhile_append_of_pos hdigits, List.takeWhile_cons, List.dropWhile_cons, hm,
      List.append_nil, Bool.false_eq_true, if_false]

theorem single_read_select_singleton_append {p : List Char} (hp : IsParameter p)
    (rest : List Char) : single.read (select [p] ++ rest) = some (p, rest) :=
  single_read_eq_some_iff.2 ⟨hp, rfl⟩

theorem beginsWith_single : single.BeginsWith escape := fun _ _ _ _ => ⟨_, rfl⟩

theorem leaves_single_select {p : List Char} (hp : IsParameter p) :
    single.Leaves (select [p]) [] :=
  Lexeme.becomes_of_read (single_read_select_singleton_append hp)

theorem leaves_sequence_select {ps : List (List Char)} (hps : IsParameterList ps) :
    sequence.Leaves (select ps) [] :=
  Lexeme.becomes_of_read fun _ => sequence_read_eq_some_iff.2 ⟨hps, rfl⟩

/-! ## Codes -/

/-- A rewind is left as it is where it cannot be read. -/
theorem leaves_rewind {α : Type} {l : Lexeme α} (hbegin : l.BeginsWith escape)
    (hread : ∀ after, l.read (escape :: '[' :: 'A' :: after) = none) :
    l.Leaves rewind rewind := by
  intro after
  have hreturn : escape ∉ ['\r'] := by decide
  have hletters : escape ∉ ['[', 'A'] := by decide
  have hescape : l.erase (escape :: '[' :: 'A' :: after) =
      escape :: '[' :: 'A' :: l.erase after := by
    rw [l.erase_cons_of_read_eq_none (hread after)]
    exact congrArg (escape :: ·) (hbegin.becomes_self hletters after)
  calc l.erase (rewind ++ after)
      = ['\r'] ++ l.erase (escape :: '[' :: 'A' :: after) := hbegin.becomes_self hreturn _
    _ = rewind ++ l.erase after := by
      rw [hescape]
      rfl

theorem leaves_single_rewind : single.Leaves rewind rewind :=
  leaves_rewind beginsWith_single fun _ => rfl

theorem leaves_sequence_rewind : sequence.Leaves rewind rewind :=
  leaves_rewind isOpenedBy_sequence.beginsWith fun _ => rfl

theorem isParameter_decimal (n : Nat) : IsParameter (decimal n) := by
  constructor
  · exact Nat.toDigits_ne_nil
  · intro c hc
    exact Nat.isDigit_of_mem_toDigits (by decide) (by decide) hc

/-- Every code but the rewind is a select sequence of one number. -/
theorem exists_code_eq_selectNumber {a : Attribute} (ha : a ≠ .effect .up) :
    ∃ n, a.code = selectNumber n := by
  cases a with
  | foreground c => exact ⟨30 + c.number, rfl⟩
  | background c => exact ⟨40 + c.number, rfl⟩
  | effect e =>
      cases e with
      | reset => exact ⟨0, rfl⟩
      | bold => exact ⟨1, rfl⟩
      | italic => exact ⟨3, rfl⟩
      | underline => exact ⟨4, rfl⟩
      | blink => exact ⟨5, rfl⟩
      | inverse => exact ⟨7, rfl⟩
      | strikethrough => exact ⟨9, rfl⟩
      | up => exact absurd rfl ha

theorem leaves_sequence_code {a : Attribute} (ha : a ≠ .effect .up) :
    sequence.Leaves a.code [] := by
  obtain ⟨n, hcode⟩ := exists_code_eq_selectNumber ha
  rw [hcode]
  exact leaves_sequence_select (isParameter_decimal n).isParameterList

theorem plain_code_eq_nil {a : Attribute} (ha : a ≠ .effect .up) :
    Palette.plain.code a = [] := by
  cases a with
  | foreground c => rfl
  | background c => rfl
  | effect e =>
      cases e with
      | up => exact absurd rfl ha
      | reset | bold | italic | underline | blink | inverse | strikethrough => rfl

/-- Of a code is left what the plain palette writes instead. -/
theorem leaves_single_code (a : Attribute) :
    single.Leaves (Palette.ansi.code a) (Palette.plain.code a) := by
  by_cases ha : a = .effect .up
  · rw [ha]
    exact leaves_single_rewind
  · obtain ⟨n, hcode⟩ := exists_code_eq_selectNumber ha
    rw [Palette.code, hcode, plain_code_eq_nil ha]
    exact leaves_single_select (isParameter_decimal n)

/-- The plain palette writes no select sequence. -/
theorem leaves_sequence_plain_code (a : Attribute) :
    sequence.Leaves (Palette.plain.code a) (Palette.plain.code a) := by
  by_cases ha : a = .effect .up
  · rw [ha]
    exact leaves_sequence_rewind
  · rw [plain_code_eq_nil ha]
    exact Lexeme.Becomes.nil

/-! ## Merged runs -/

/-- The characters that a terminal reads beside the parameters. -/
def Event.char? : Event → Option Char
  | char c => some c
  | parameter _ => none

/-- What is left of a text are the characters among its events. -/
theorem erase_sequence_eq_filterMap_events (s : List Char) :
    sequence.erase s = (events s).filterMap Event.char? := by
  induction s using Lexeme.scan_induction sequence with
  | nil => simp [sequence.erase_nil, events]
  | read c s ps rest hread ih =>
      have hnone : (ps.map Event.parameter).filterMap Event.char? = [] := by
        rw [List.filterMap_map, List.filterMap_eq_nil_iff]
        exact fun _ _ => rfl
      rw [sequence.erase_of_read hread, events_of_read hread, List.filterMap_append, hnone,
        List.nil_append, ih]
  | char c s hread ih =>
      rw [sequence.erase_cons_of_read_eq_none hread, events,
        sequence.scan_cons_of_read_eq_none hread, List.flatMap_cons, List.filterMap_append,
        ← events, ih]
      rfl

/-- Merging a run makes no difference to what is left. -/
theorem erase_sequence_mergeFirstRun (s : List Char) :
    sequence.erase (mergeFirstRun s) = sequence.erase s := by
  obtain hself | ⟨ps, hps, hmerged⟩ := mergeFirstRun_eq_self_or s
  · rw [hself]
  · rw [erase_sequence_eq_filterMap_events, erase_sequence_eq_filterMap_events, hmerged,
      events_substitute_writeSingles hps]

end TerminalDecoration.Control
