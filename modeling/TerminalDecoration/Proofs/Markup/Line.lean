/-
# Lines of a text

A text breaks at its first newline. Skipping lines takes whole lines off the front, and it can be
done exactly as often as the text has newlines; both facts are needed wherever a rewind decides by
the lines behind it. The last place of a word in a line is the one behind which the word does not
stand again.
-/

import Mathlib.Data.List.Basic
import TerminalDecoration.Markup.Rewound

namespace TerminalDecoration.Markup

/-! ## Breaking at a newline -/

/-- A text breaks after its first line. -/
theorem breakLine?_eq_some_iff {s line after : List Char} :
    breakLine? s = some (line, after) ↔ s = line ++ '\n' :: after ∧ '\n' ∉ line := by
  constructor
  · intro h
    refine ⟨eq_of_breakLine? h, ?_⟩
    induction s generalizing line with
    | nil => simp [breakLine?] at h
    | cons c s ih =>
        unfold breakLine? at h
        split at h
        · cases h
          simp
        · rename_i hc
          obtain ⟨⟨line', after'⟩, hs, heq⟩ := Option.map_eq_some_iff.1 h
          cases heq
          simp [Ne.symm hc, ih hs]
  · rintro ⟨rfl, hline⟩
    induction line with
    | nil => simp [breakLine?]
    | cons c line ih =>
        simp only [List.mem_cons, not_or] at hline
        rw [List.cons_append, breakLine?, if_neg (Ne.symm hline.1), ih hline.2]
        rfl

/-- What stands at the front of a text and has no newline stands in the first line. -/
theorem prefix_line {u line after : List Char} (hu : '\n' ∉ u)
    (h : u <+: line ++ '\n' :: after) : u <+: line := by
  induction line generalizing u with
  | nil =>
      cases u with
      | nil => exact List.nil_prefix
      | cons c u =>
          rw [List.nil_append, List.cons_prefix_cons] at h
          exact absurd (by simp [h.1]) hu
  | cons d line ih =>
      cases u with
      | nil => exact List.nil_prefix
      | cons c u =>
          rw [List.cons_append, List.cons_prefix_cons] at h
          rw [List.mem_cons, not_or] at hu
          exact List.cons_prefix_cons.2 ⟨h.1, ih hu.2 h.2⟩

/-- Only a text without a newline does not break. -/
theorem breakLine?_eq_none_iff {s : List Char} : breakLine? s = none ↔ '\n' ∉ s := by
  induction s with
  | nil => simp [breakLine?]
  | cons c s ih =>
      by_cases hc : c = '\n'
      · simp [breakLine?, hc]
      · simp [breakLine?, hc, Ne.symm hc, ih]

/-! ## Skipping lines -/

/-- The text consists of this many lines, each ended by a newline. -/
def IsLines : Nat → List Char → Prop
  | 0, text => text = []
  | count + 1, text =>
    ∃ line after, text = line ++ '\n' :: after ∧ '\n' ∉ line ∧ IsLines count after

/-- Behind ended lines a line starts. -/
theorem IsLines.foldl_newline {count : Nat} {text : List Char} (h : IsLines count text) :
    text.foldl (fun _ c => c == '\n') true = true := by
  induction count generalizing text with
  | zero =>
      rw [IsLines] at h
      rw [h]
      rfl
  | succ count ih =>
      obtain ⟨line, after, rfl, -, hafter⟩ := h
      rw [List.foldl_append, List.foldl_cons]
      exact ih hafter

/-- Skipping takes exactly the ended lines off the front. -/
theorem afterLines?_eq_some_iff {count : Nat} {s rest : List Char} :
    afterLines? count s = some rest ↔ ∃ text, s = text ++ rest ∧ IsLines count text := by
  induction count generalizing s with
  | zero => simp [afterLines?, IsLines]
  | succ count ih =>
      constructor
      · intro h
        obtain ⟨⟨line, after⟩, hs, hrest⟩ := Option.bind_eq_some_iff.1 h
        obtain ⟨text, rfl, htext⟩ := ih.1 hrest
        obtain ⟨rfl, hline⟩ := breakLine?_eq_some_iff.1 hs
        exact ⟨line ++ '\n' :: text, by simp, line, text, rfl, hline, htext⟩
      · rintro ⟨text, rfl, line, after, rfl, hline, hafter⟩
        have hbreak : breakLine? (line ++ '\n' :: (after ++ rest)) = some (line, after ++ rest) :=
          breakLine?_eq_some_iff.2 ⟨rfl, hline⟩
        rw [List.append_assoc, List.cons_append, afterLines?, hbreak]
        exact ih.2 ⟨after, rfl, hafter⟩

/-- So many lines can be skipped as the text has newlines. -/
theorem afterLines?_eq_none_iff {count : Nat} {s : List Char} :
    afterLines? count s = none ↔ s.count '\n' < count := by
  induction count generalizing s with
  | zero => simp [afterLines?]
  | succ count ih =>
      cases hbreak : breakLine? s with
      | none =>
          have hzero := List.count_eq_zero.2 (breakLine?_eq_none_iff.1 hbreak)
          simp [afterLines?, hbreak, hzero]
      | some broken =>
          obtain ⟨line, after⟩ := broken
          obtain ⟨rfl, hline⟩ := breakLine?_eq_some_iff.1 hbreak
          have hcount : (line ++ '\n' :: after).count '\n' = after.count '\n' + 1 := by
            simp [List.count_append, List.count_eq_zero.2 hline]
          rw [afterLines?, hbreak, Option.bind_some, ih, hcount, Nat.add_lt_add_iff_right]

/-! ## The last place of a word -/

/-- A word does not stand where its first character is missing. -/
theorem infix_of_infix_append {c : Char} {w u s : List Char} (hu : c ∉ u)
    (h : c :: w <:+: u ++ s) : c :: w <:+: s := by
  induction u with
  | nil => exact h
  | cons d u ih =>
      rw [List.mem_cons, not_or] at hu
      rw [List.cons_append, List.infix_cons_iff, List.cons_prefix_cons] at h
      rcases h with h | h
      · exact absurd h.1 hu.1
      · exact ih hu.2 h

theorem isSome_after?_iff {w s : List Char} : (Text.after? w s).isSome = true ↔ w <+: s := by
  constructor
  · intro h
    obtain ⟨rest, hrest⟩ := Option.isSome_iff_exists.1 h
    exact ⟨rest, (Text.after?_eq_some_iff.1 hrest).symm⟩
  · rintro ⟨rest, hrest⟩
    rw [Text.after?_eq_some_iff.2 hrest.symm]
    rfl

/-- A word that is found nowhere does not stand in the text. -/
theorem not_infix_of_beforeLast?_eq_none {w s : List Char} (hw : w ≠ [])
    (h : beforeLast? w s = none) : ¬ w <:+: s := by
  induction s with
  | nil => simpa using hw
  | cons c s ih =>
      rw [beforeLast?] at h
      split at h
      · cases h
      · rename_i hs
        split at h
        · cases h
        · rename_i hfront
          rw [isSome_after?_iff] at hfront
          rw [List.infix_cons_iff, not_or]
          exact ⟨hfront, ih hs⟩

/-- Behind the first character of its last place, the word does not stand again. -/
theorem eq_append_of_beforeLast? {w s start : List Char} (hw : w ≠ [])
    (h : beforeLast? w s = some start) :
    ∃ after, s = start ++ w ++ after ∧ ¬ w <:+: (w ++ after).tail := by
  induction s generalizing start with
  | nil => cases h
  | cons c s ih =>
      rw [beforeLast?] at h
      split at h
      · rename_i start' hs
        cases h
        obtain ⟨after, rfl, hafter⟩ := ih hs
        exact ⟨after, rfl, hafter⟩
      · rename_i hs
        split at h
        · rename_i hfront
          cases h
          obtain ⟨after, hafter⟩ := isSome_after?_iff.1 hfront
          refine ⟨after, hafter.symm, ?_⟩
          rw [hafter]
          exact not_infix_of_beforeLast?_eq_none hw hs
        · cases h

/-- A line is cut before a rewind. -/
theorem eq_append_of_rewound {exhausted : Bool} {line start : List Char}
    (h : (if exhausted then none else beforeLast? rewindText line) = some start) :
    ∃ behind, line = start ++ rewindText ++ behind := by
  cases exhausted with
  | true => cases h
  | false =>
      obtain ⟨behind, hline, -⟩ := eq_append_of_beforeLast? (by decide) h
      exact ⟨behind, hline⟩

/-- A text without a rewind has no rewound lines. -/
theorem dropRewoundFrom_of_not_infix {lines : Nat} {exhausted : Bool} {s : List Char}
    (h : ¬ rewindText <:+: s) : dropRewoundFrom lines exhausted s = s := by
  fun_induction dropRewoundFrom lines exhausted s with
  | case1 => rfl
  | case2 exhausted s line after hline _ ih | case4 exhausted s line after hline _ _ _ ih =>
      have hs := eq_of_breakLine? hline
      have hafter : after <:+ s := ⟨line ++ ['\n'], by simp [hs]⟩
      rw [ih fun hstands => h (hstands.trans hafter.isInfix), hs]
  | case3 exhausted s line after hline start hstart _ _ _ =>
      obtain ⟨behind, rfl⟩ := eq_append_of_rewound hstart
      have hs := eq_of_breakLine? hline
      exact absurd ⟨start, behind ++ '\n' :: after, by simp [hs]⟩ h

end TerminalDecoration.Markup
