/-
# Joining pieces

Cutting a text at its bars forgets nothing: quote the bars of every piece, put bars between the
pieces, and the text is there again. A backslash cannot be quoted itself, so a piece that ends in
one would quote the bar behind it. That is the only obstacle: the lists of pieces that texts have
are those in which no piece before the last ends in a backslash.
-/

import TerminalDecoration.Line.Pieces

namespace TerminalDecoration.Line

/-! ## Writing pieces -/

/-- A character of a piece as it is written in a text. -/
def quoteChar (c : Char) : List Char := if c = '|' then ['\\', '|'] else [c]

/-- A piece as it is written in a text. -/
def quote (piece : List Char) : List Char := piece.flatMap quoteChar

/-- The text of these pieces, with bars between them. -/
def join (pieces : List (List Char)) : List Char :=
  List.intercalate ['|'] (pieces.map quote)

/-- There is a piece, and no bar follows a piece that ends in a backslash. -/
def IsSeparable (pieces : List (List Char)) : Prop :=
  pieces ≠ [] ∧ ∀ piece ∈ pieces.dropLast, piece.getLast? ≠ some '\\'

theorem quote_cons (c : Char) (piece : List Char) :
    quote (c :: piece) = quoteChar c ++ quote piece := rfl

theorem quoteChar_of_ne {c : Char} (hc : c ≠ '|') : quoteChar c = [c] := if_neg hc

theorem join_cons {pieces : List (List Char)} (hpieces : pieces ≠ []) (piece : List Char) :
    join (piece :: pieces) = quote piece ++ '|' :: join pieces := by
  have hmore : pieces.map quote ≠ [] := by
    intro h
    exact hpieces (List.map_eq_nil_iff.1 h)
  rw [join, List.map_cons, List.intercalate_cons_of_ne_nil hmore, List.append_assoc,
    List.singleton_append, ← join]

/-- A character added to the first piece is added to the text. -/
theorem join_modifyHead_cons {pieces : List (List Char)} (hpieces : pieces ≠ []) (c : Char) :
    join (pieces.modifyHead (c :: ·)) = quoteChar c ++ join pieces := by
  cases pieces with
  | nil => exact absurd rfl hpieces
  | cons piece pieces =>
      rw [List.modifyHead_cons]
      by_cases hmore : pieces = []
      · rw [hmore]
        simp only [join, List.map_cons, List.map_nil, List.intercalate_singleton, quote_cons]
      · rw [join_cons hmore, join_cons hmore, quote_cons, List.append_assoc]

/-! ## Cutting, step by step -/

theorem pieces_quoted_bar (s : List Char) :
    pieces ('\\' :: '|' :: s) = (pieces s).modifyHead ('|' :: ·) := by
  rw [pieces]

theorem pieces_bar (s : List Char) : pieces ('|' :: s) = [] :: pieces s := by
  rw [pieces]

/-- Any character but a bar goes to the first piece, if it is no backslash before a bar. -/
theorem pieces_cons {c : Char} {s : List Char} (hc : c ≠ '|')
    (hquote : c = '\\' → s.head? ≠ some '|') :
    pieces (c :: s) = (pieces s).modifyHead (c :: ·) := by
  rw [pieces]
  · rintro t rfl rfl
    exact hquote rfl rfl
  · exact hc

/-- Only a text that begins with a bar has an empty piece before others. -/
theorem head?_of_pieces_eq_nil_cons {s : List Char} {rest : List (List Char)}
    (hrest : rest ≠ []) (h : pieces s = [] :: rest) : s.head? = some '|' := by
  -- Where a character goes to the first piece, that piece is not empty.
  have hnot : ∀ (c : Char) (t : List Char), (pieces t).modifyHead (c :: ·) ≠ [] :: rest := by
    intro c t heq
    cases hpieces : pieces t with
    | nil => exact pieces_ne_nil t hpieces
    | cons piece more =>
        rw [hpieces, List.modifyHead_cons] at heq
        cases heq
  fun_cases pieces s with
  | case1 =>
      rw [pieces] at h
      exact absurd (List.cons.inj h).2.symm hrest
  | case2 t =>
      rw [pieces_quoted_bar] at h
      exact absurd h (hnot '|' t)
  | case3 t => rfl
  | case4 c t hquote hbar =>
      rw [pieces] at h
      · exact absurd h (hnot c t)
      · exact hquote
      · exact hbar

/-! ## A text is joined from its pieces -/

theorem join_pieces (s : List Char) : join (pieces s) = s := by
  fun_induction pieces s with
  | case1 => rfl
  | case2 s ih =>
      rw [join_modifyHead_cons (pieces_ne_nil s), ih]
      rfl
  | case3 s ih =>
      rw [join_cons (pieces_ne_nil s), ih]
      rfl
  | case4 c s hquote hbar ih =>
      rw [join_modifyHead_cons (pieces_ne_nil s), ih, quoteChar_of_ne hbar,
        List.singleton_append]

/-- A character added to the first piece leaves the pieces separable, unless it is a backslash that
becomes all of a first piece with a bar behind it. -/
theorem IsSeparable.modifyHead_cons {pieces : List (List Char)} (h : IsSeparable pieces)
    {c : Char} (hc : c = '\\' → ∀ rest, rest ≠ [] → pieces ≠ [] :: rest) :
    IsSeparable (pieces.modifyHead (c :: ·)) := by
  cases pieces with
  | nil => exact absurd rfl h.1
  | cons piece rest =>
      rw [List.modifyHead_cons]
      constructor
      · exact List.cons_ne_nil _ _
      · cases rest with
        | nil => simp
        | cons next rest =>
            have hends := h.2
            rw [List.dropLast_cons_of_ne_nil (List.cons_ne_nil next rest),
              List.forall_mem_cons] at hends ⊢
            constructor
            · cases piece with
              | nil =>
                  intro hlast
                  exact hc (Option.some.inj hlast) _ (List.cons_ne_nil next rest) rfl
              | cons d piece =>
                  rw [List.getLast?_cons_cons]
                  exact hends.1
            · exact hends.2

theorem isSeparable_pieces (s : List Char) : IsSeparable (pieces s) := by
  fun_induction pieces s with
  | case1 => simp [IsSeparable]
  | case2 s ih =>
      apply ih.modifyHead_cons
      intro hbar
      exact absurd hbar (by decide)
  | case3 s ih =>
      constructor
      · exact List.cons_ne_nil _ _
      · rw [List.dropLast_cons_of_ne_nil (pieces_ne_nil s), List.forall_mem_cons]
        exact ⟨by simp, ih.2⟩
  | case4 c s hquote hbar ih =>
      apply ih.modifyHead_cons
      rintro rfl rest hrest h
      obtain ⟨t, rfl⟩ := List.head?_eq_some_iff.1 (head?_of_pieces_eq_nil_cons hrest h)
      exact hquote t rfl rfl

/-! ## Pieces are read back from their text -/

theorem head?_quote_append_ne {piece : List Char} (hpiece : piece ≠ []) (s : List Char) :
    (quote piece ++ s).head? ≠ some '|' := by
  cases piece with
  | nil => exact absurd rfl hpiece
  | cons c piece =>
      rw [quote_cons]
      by_cases hc : c = '|'
      · rw [hc]
        simp [quoteChar]
      · rw [quoteChar_of_ne hc]
        simpa using hc

/-- A quoted piece goes to the first piece as a whole, unless it ends in a backslash before a bar.
-/
theorem pieces_quote_append {piece s : List Char}
    (hend : piece.getLast? = some '\\' → s.head? ≠ some '|') :
    pieces (quote piece ++ s) = (pieces s).modifyHead (piece ++ ·) := by
  induction piece with
  | nil =>
      show pieces s = (pieces s).modifyHead fun first => first
      cases pieces s <;> rfl
  | cons c piece ih =>
      have hmore : piece.getLast? = some '\\' → s.head? ≠ some '|' := by
        intro hlast
        apply hend
        rw [List.getLast?_cons, hlast]
        rfl
      have hstep : pieces (quote (c :: piece) ++ s) =
          (pieces (quote piece ++ s)).modifyHead (c :: ·) := by
        rw [quote_cons, List.append_assoc]
        by_cases hc : c = '|'
        · rw [hc]
          exact pieces_quoted_bar _
        · rw [quoteChar_of_ne hc, List.singleton_append]
          apply pieces_cons hc
          rintro rfl
          by_cases hpiece : piece = []
          · rw [hpiece] at hend ⊢
            exact hend rfl
          · exact head?_quote_append_ne hpiece s
      rw [hstep, ih hmore, List.modifyHead_modifyHead]
      rfl

theorem pieces_join {ps : List (List Char)} (h : IsSeparable ps) : pieces (join ps) = ps := by
  obtain ⟨hne, hends⟩ := h
  induction ps with
  | nil => exact absurd rfl hne
  | cons piece ps ih =>
      by_cases hmore : ps = []
      · have hlast : pieces (quote piece ++ []) = (pieces []).modifyHead (piece ++ ·) :=
          pieces_quote_append (by simp)
        rw [List.append_nil] at hlast
        rw [hmore, join, List.map_singleton, List.intercalate_singleton, hlast]
        simp [pieces]
      · rw [List.dropLast_cons_of_ne_nil hmore, List.forall_mem_cons] at hends
        rw [join_cons hmore, pieces_quote_append fun hlast => absurd hlast hends.1, pieces_bar,
          List.modifyHead_cons, List.append_nil, ih hmore hends.2]

/-- Cutting and joining undo each other: every text is joined from its pieces, which are separable,
and every separable list of pieces is cut out of the text that it is joined to. So the lists of
pieces that texts have are the separable ones. -/
theorem pieces_inverse_join :
    (∀ s, join (pieces s) = s ∧ IsSeparable (pieces s)) ∧
      (∀ ps, IsSeparable ps → pieces (join ps) = ps) ∧
        ∀ ps, (∃ s, pieces s = ps) ↔ IsSeparable ps := by
  refine ⟨fun s => ⟨join_pieces s, isSeparable_pieces s⟩, fun _ => pieces_join, ?_⟩
  intro ps
  constructor
  · rintro ⟨s, rfl⟩
    exact isSeparable_pieces s
  · intro h
    exact ⟨join ps, pieces_join h⟩

/-- A backslash before a quoted bar, an empty piece, and a backslash at the very end. -/
theorem pieces_inverse_join_backslashes :
    let parts := ["a\\|b".toList, [], "c\\".toList]
    IsSeparable parts ∧ pieces (join parts) = parts := by
  intro parts
  have h : IsSeparable parts := by
    constructor
    · exact List.cons_ne_nil _ _
    · decide
  exact ⟨h, pieces_inverse_join.2.1 _ h⟩

end TerminalDecoration.Line
