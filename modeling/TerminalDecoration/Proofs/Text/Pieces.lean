/-
# Cutting a text at a word

Cutting gives the pieces around the leftmost occurrences of a word, and joining them with the word
gives the text back. Many lists of pieces can be joined to the same text; cutting picks the one in
which the word stands in no piece and does not begin at the end of a piece and end in the word
behind it. For a word of one character this is the usual splitting of lists.
-/

import TerminalDecoration.Proofs.Text.Scan

namespace TerminalDecoration.Text.Lexeme

/-! ## Equations of cutting -/

section

variable {α : Type} (l : Lexeme α)

@[simp]
theorem pieces_nil : l.pieces [] = [[]] := by
  rw [pieces, cut, l.scan_nil]
  rfl

theorem pieces_of_read {s : List Char} {a : α} {rest : List Char}
    (h : l.read s = some (a, rest)) : l.pieces s = [] :: l.pieces rest := by
  rw [pieces, cut, l.scan_of_read h]
  rfl

theorem pieces_cons_of_read_eq_none {c : Char} {s : List Char} (h : l.read (c :: s) = none) :
    l.pieces (c :: s) = (l.pieces s).modifyHead (c :: ·) := by
  rw [pieces, cut, l.scan_cons_of_read_eq_none h]
  rfl

/-- There is one more piece than there are occurrences. -/
theorem length_pieces (s : List Char) :
    (l.pieces s).length = (l.occurrences s).length + 1 := by
  induction s using scan_induction l with
  | nil => simp
  | read c s a rest hread ih =>
      rw [l.pieces_of_read hread, l.occurrences_of_read hread, List.length_cons, ih,
        List.length_cons]
  | char c s hread ih =>
      rw [l.pieces_cons_of_read_eq_none hread, l.occurrences_cons_of_read_eq_none hread,
        List.length_modifyHead, ih]

end

/-! ## The pieces around a word -/

/-- These are the pieces around the leftmost occurrences of a word: no piece holds it, and none that
the word follows holds the front of an occurrence that would end within the word behind. -/
def IsCut (w : List Char) : List (List Char) → Prop
  | [] => False
  | [p] => ¬ w <:+: p
  | p :: q :: ps => ¬ w <:+: p ++ w.dropLast ∧ IsCut w (q :: ps)

/-- An occurrence that begins in the text before a word and ends before the word does. -/
theorem prefix_append_dropLast {c : Char} {w p t : List Char}
    (h : w <+: c :: p ++ w ++ t) : w <+: c :: p ++ w.dropLast := by
  have hfront : c :: p ++ w.dropLast <+: c :: p ++ w ++ t := by
    rw [List.append_assoc, List.prefix_append_right_inj]
    exact (List.dropLast_prefix w).trans (List.prefix_append w t)
  apply List.prefix_of_prefix_length_le h hfront
  simp only [List.cons_append, List.length_cons, List.length_append, List.length_dropLast]
  omega

variable {w : List Char}

/-- Text before a word that does not hold the front of another occurrence is the first piece. -/
theorem pieces_word_append (hw : w ≠ []) {p : List Char} (hp : ¬ w <:+: p ++ w.dropLast)
    (t : List Char) : (word w).pieces (p ++ w ++ t) = p :: (word w).pieces t := by
  induction p with
  | nil => exact (word w).pieces_of_read ((word_read_eq_some_iff hw).2 rfl)
  | cons c p ih =>
      rw [List.cons_append, List.infix_cons_iff, not_or] at hp
      have hnone : (word w).read (c :: p ++ w ++ t) = none := by
        cases hread : (word w).read (c :: p ++ w ++ t) with
        | none => rfl
        | some found =>
            have hfront := (word_read_eq_some_iff hw).1 hread
            exact absurd (prefix_append_dropLast ⟨found.2, hfront.symm⟩) hp.1
      rw [List.cons_append, List.cons_append] at hnone ⊢
      rw [(word w).pieces_cons_of_read_eq_none hnone, ih hp.2]
      rfl

theorem pieces_word_eq_singleton (hw : w ≠ []) {p : List Char} (hp : ¬ w <:+: p) :
    (word w).pieces p = [p] := by
  induction p with
  | nil => exact (word w).pieces_nil
  | cons c p ih =>
      rw [List.infix_cons_iff, not_or] at hp
      have hnone : (word w).read (c :: p) = none := by
        cases hread : (word w).read (c :: p) with
        | none => rfl
        | some found =>
            have hfront := (word_read_eq_some_iff hw).1 hread
            exact absurd ⟨found.2, hfront.symm⟩ hp.1
      rw [(word w).pieces_cons_of_read_eq_none hnone, ih hp.2]
      rfl

/-- Joining the pieces with the word gives the text back. -/
theorem intercalate_pieces_word (hw : w ≠ []) (s : List Char) :
    List.intercalate w ((word w).pieces s) = s := by
  induction s using scan_induction (word w) with
  | nil => rw [pieces_nil, List.intercalate_singleton]
  | read c s a rest hread ih =>
      have hmore : (word w).pieces rest ≠ [] := List.cons_ne_nil _ _
      rw [(word w).pieces_of_read hread, List.intercalate_cons_of_ne_nil hmore, ih,
        (word_read_eq_some_iff hw).1 hread, List.nil_append]
  | char c s hread ih =>
      rw [(word w).pieces_cons_of_read_eq_none hread]
      rw [pieces] at ih ⊢
      rw [List.modifyHead_cons, List.intercalate_cons_cons_left, ih]

theorem isCut_pieces_word (hw : w ≠ []) (s : List Char) : IsCut w ((word w).pieces s) := by
  induction s using scan_induction (word w) with
  | nil =>
      rw [pieces_nil]
      exact fun h => hw (List.infix_nil.1 h)
  | read c s a rest hread ih =>
      rw [(word w).pieces_of_read hread]
      refine ⟨fun h => ?_, ih⟩
      have hlength := h.length_le
      have hpos := List.length_pos_iff.2 hw
      rw [List.nil_append, List.length_dropLast] at hlength
      omega
  | char c s hread ih =>
      have hnot : ¬ w <+: c :: s := by
        intro h
        rcases h with ⟨rest, hrest⟩
        rw [(word_read_eq_some_iff hw).2 hrest.symm] at hread
        cases hread
      have hs := intercalate_pieces_word hw s
      rw [(word w).pieces_cons_of_read_eq_none hread]
      cases hpieces : (word w).pieces s with
      | nil => exact absurd hpieces (List.cons_ne_nil _ _)
      | cons p ps =>
          rw [hpieces] at ih hs
          rw [List.modifyHead_cons]
          cases ps with
          | nil =>
              rw [List.intercalate_singleton] at hs
              show ¬ w <:+: c :: p
              rw [List.infix_cons_iff, not_or]
              exact ⟨by rwa [hs], ih⟩
          | cons q ps =>
              rw [List.intercalate_cons_cons] at hs
              refine ⟨?_, ih.2⟩
              rw [List.cons_append, List.infix_cons_iff, not_or]
              refine ⟨fun h => hnot (h.trans ?_), ih.1⟩
              rw [← hs, List.prefix_cons_inj, List.append_assoc, List.prefix_append_right_inj]
              exact (List.dropLast_prefix w).trans (List.prefix_append w _)

/-- Cutting at a word finds the one list of pieces of this form that the text is joined from. -/
theorem pieces_word_eq_iff (hw : w ≠ []) {s : List Char} {ps : List (List Char)} :
    (word w).pieces s = ps ↔ IsCut w ps ∧ s = List.intercalate w ps := by
  constructor
  · intro h
    rw [← h]
    exact ⟨isCut_pieces_word hw s, (intercalate_pieces_word hw s).symm⟩
  · rintro ⟨hcut, rfl⟩
    induction ps with
    | nil => exact absurd hcut id
    | cons p ps ih =>
        cases ps with
        | nil =>
            rw [List.intercalate_singleton]
            exact pieces_word_eq_singleton hw hcut
        | cons q ps =>
            rw [List.intercalate_cons_cons, pieces_word_append hw hcut.1, ih hcut.2]

/-- Cutting at a single character is the splitting of lists. -/
theorem pieces_word_singleton (c : Char) (s : List Char) :
    (word [c]).pieces s = s.splitOn c := by
  have hc : [c] ≠ [] := List.cons_ne_nil c []
  induction s with
  | nil => simp
  | cons d s ih =>
      rw [List.splitOn_cons_eq_if_modifyHead, ← ih]
      by_cases hd : d = c
      · have hread : (word [c]).read (c :: s) = some ((), s) := (word_read_eq_some_iff hc).2 rfl
        rw [hd, (word [c]).pieces_of_read hread, if_pos (by simp)]
      · rw [(word [c]).pieces_cons_of_read_eq_none
          ((beginsWith_word c []).read_cons_eq_none hd s), if_neg (by simpa using hd)]

/-! ## Words between two characters -/

variable {c : Char} {x : List Char}

/-- Where a word stands between two characters that it does not hold, the word and the characters
begin within a text or at its end. -/
theorem infix_append_iff (hx : c ∉ x) {s : List Char} :
    c :: x ++ [c] <:+: s ++ c :: x ↔ c :: x ++ [c] <:+: s ∨ c :: x <:+ s := by
  constructor
  · intro h
    rcases h with ⟨u, v, h⟩
    have hends : (u ++ c :: x) ++ c :: v = s ++ c :: x := by
      rw [← h]
      simp
    rcases List.append_eq_append_iff.1 hends with ⟨y, hs, hy⟩ | ⟨y, hs, hy⟩
    · cases y with
      | nil =>
          right
          rw [hs, List.append_nil]
          exact List.suffix_append u (c :: x)
      | cons d y =>
          rw [List.cons_append] at hy
          rw [← (List.cons.inj hy).1] at hs
          left
          exact ⟨u, y, by rw [hs]; simp⟩
    · cases y with
      | nil =>
          right
          rw [← List.append_nil s, ← hs]
          exact List.suffix_append u (c :: x)
      | cons d y =>
          rw [List.cons_append] at hy
          exact absurd (by rw [(List.cons.inj hy).2]; simp) hx
  · intro h
    rcases h with h | ⟨u, rfl⟩
    · exact h.trans (List.prefix_append s (c :: x)).isInfix
    · exact ⟨u, x, by simp⟩

theorem isCut_iff (hx : c ∉ x) {ps : List (List Char)} :
    IsCut (c :: x ++ [c]) ps ↔ ps ≠ [] ∧ (∀ p ∈ ps, ¬ c :: x ++ [c] <:+: p) ∧
      ∀ p ∈ ps.dropLast, ¬ c :: x <:+ p := by
  induction ps with
  | nil => simp [IsCut]
  | cons p ps ih =>
      cases ps with
      | nil => simp [IsCut]
      | cons q ps =>
          have hp : ¬ c :: x ++ [c] <:+: p ++ (c :: x ++ [c]).dropLast ↔
              ¬ c :: x ++ [c] <:+: p ∧ ¬ c :: x <:+ p := by
            rw [List.dropLast_concat, infix_append_iff hx, not_or]
          rw [IsCut, ih, hp, List.forall_mem_cons (a := p),
            List.dropLast_cons_of_ne_nil (List.cons_ne_nil q ps), List.forall_mem_cons (a := p)]
          constructor
          · intro h
            exact ⟨List.cons_ne_nil _ _, ⟨h.1.1, h.2.2.1⟩, h.1.2, h.2.2.2⟩
          · intro h
            exact ⟨⟨h.2.1.1, h.2.2.1⟩, List.cons_ne_nil _ _, h.2.1.2, h.2.2.2⟩

/-- A text holds no word between two characters, and none begins at its end, if the split of the
text does not hold the word. -/
theorem not_infix_append_of_not_mem_splitOn (hx : c ∉ x) {s : List Char}
    (hs : x ∉ s.splitOn c) : ¬ c :: x ++ [c] <:+: s ++ c :: x := by
  intro h
  apply hs
  rcases (infix_append_iff hx).1 h with ⟨u, v, h⟩ | ⟨u, h⟩
  · have hsplit : s = u ++ c :: (x ++ c :: v) := by
      rw [← h]
      simp
    rw [hsplit, List.splitOn_append_cons_self, List.splitOn_append_cons_self_of_not_mem hx]
    simp
  · rw [← h, List.splitOn_append_cons_self, List.splitOn_eq_singleton hx]
    simp

end TerminalDecoration.Text.Lexeme
