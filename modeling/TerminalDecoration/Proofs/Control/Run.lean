/-
# Blocks of singles

A text is made of blocks of singles side by side and of the characters between them. A block of at
least two singles is a run. A block ends where no single follows, and what a rewriting puts in the
place of singles always begins with an escape; so where no single followed before, none follows
afterwards, and blocks can be looked at one by one.
-/

import TerminalDecoration.Proofs.Control.Erasure

namespace TerminalDecoration.Control

open Text (Lexeme)

/-! ## Singles -/

theorem isDelimited_single : single.IsDelimited := by
  intro s p rest hread after
  exact single_read_select_singleton_append (single_read_eq_some_iff.1 hread).1 after

theorem isOpenedBy_single : single.IsOpenedBy escape := by
  intro s p rest hread
  have hp := (single_read_eq_some_iff.1 hread).1
  exact isOpenedBy_sequence (sequence_read_eq_some_iff.2 ⟨hp.isParameterList, rfl⟩ :
    sequence.read (select [p] ++ rest) = some ([p], rest))

theorem writeSingles_nil : writeSingles [] = [] := rfl

theorem writeSingles_cons (p : List Char) (ps : List (List Char)) :
    writeSingles (p :: ps) = select [p] ++ writeSingles ps := by
  rw [writeSingles, List.flatMap_cons, ← writeSingles]

theorem writeSingles_append (ps qs : List (List Char)) :
    writeSingles (ps ++ qs) = writeSingles ps ++ writeSingles qs := by
  rw [writeSingles, List.flatMap_append, ← writeSingles, ← writeSingles]

theorem writeSingles_singleton (p : List Char) : writeSingles [p] = select [p] := by
  rw [writeSingles, List.flatMap_singleton]

/-- A block goes on with a single where one stands. -/
theorem single_read_writeSingles_append {p : List Char} (hp : IsParameter p)
    (ps : List (List Char)) (rest : List Char) :
    single.read (writeSingles (p :: ps) ++ rest) = some (p, writeSingles ps ++ rest) := by
  rw [writeSingles_cons, List.append_assoc]
  exact single_read_select_singleton_append hp _

/-- A sequence of at least two parameters is no single. -/
theorem single_read_select_append {ps : List (List Char)} (hps : IsParameterList ps)
    (hlength : 2 ≤ ps.length) (rest : List Char) : single.read (select ps ++ rest) = none := by
  cases hread : single.read (select ps ++ rest) with
  | none => rfl
  | some found =>
      obtain ⟨p, rest'⟩ := found
      obtain ⟨hp, hs⟩ := single_read_eq_some_iff.1 hread
      have hwhole : sequence.read (select ps ++ rest) = some (ps, rest) :=
        sequence_read_eq_some_iff.2 ⟨hps, rfl⟩
      have hpart : sequence.read (select ps ++ rest) = some ([p], rest') :=
        sequence_read_eq_some_iff.2 ⟨hp.isParameterList, hs⟩
      rw [hwhole] at hpart
      cases hpart
      exact absurd hlength (Nat.not_succ_le_self 1)

/-- Where no single followed none follows after a substitution, if only singles are replaced and
each substitute begins with an escape. -/
theorem single_read_substitute_eq_none {α : Type} {l : Lexeme α} {f : α → List Char}
    (hl : ∀ {s a rest}, l.read s = some (a, rest) → single.read s ≠ none)
    (hf : ∀ a, ∃ tail, f a = escape :: tail) {s : List Char} (hs : single.read s = none) :
    single.read (l.substitute f s) = none := by
  cases s with
  | nil => rwa [l.substitute_nil]
  | cons c s =>
      have hkept : l.read (c :: s) = none := by
        cases hread : l.read (c :: s) with
        | none => rfl
        | some found => exact absurd hs (hl hread)
      rw [l.substitute_cons_of_read_eq_none hkept]
      cases hread : single.read (c :: l.substitute f s) with
      | none => rfl
      | some found =>
          have hfront : ∀ a, ∃ d tail, f a = d :: tail ∧ d ∉ (single.write found.1).tail := by
            intro a
            obtain ⟨tail, htail⟩ := hf a
            exact ⟨escape, tail, htail, isOpenedBy_single.isNotInside hread⟩
          obtain ⟨rest, hbefore⟩ := isDelimited_single.exists_read_of_read_substitute hfront hread
          rw [hs] at hbefore
          cases hbefore

/-! ## Blocks -/

theorem readSingles_of_read {s p rest : List Char} (h : single.read s = some (p, rest)) :
    readSingles s = (p :: (readSingles rest).1, (readSingles rest).2) := by
  rw [readSingles]
  split
  · rename_i hread
    rw [show readSingle s = some (p, rest) from h] at hread
    cases hread
    rfl
  · rename_i hread
    rw [show readSingle s = some (p, rest) from h] at hread
    cases hread

theorem readSingles_of_read_eq_none {s : List Char} (h : single.read s = none) :
    readSingles s = ([], s) := by
  rw [readSingles]
  split
  · rename_i hread
    rw [show readSingle s = none from h] at hread
    cases hread
  · rfl

/-- A block that no single follows is read as a whole. -/
theorem readSingles_writeSingles_append {ps : List (List Char)} {rest : List Char}
    (hps : ∀ p ∈ ps, IsParameter p) (hrest : single.read rest = none) :
    readSingles (writeSingles ps ++ rest) = (ps, rest) := by
  induction ps with
  | nil => exact readSingles_of_read_eq_none hrest
  | cons p ps ih =>
      rw [List.forall_mem_cons] at hps
      rw [readSingles_of_read (single_read_writeSingles_append hps.1 ps rest), ih hps.2]

/-- What holds of the empty text, and is kept by a block put before a text that begins with no
single and by a character at which no single stands, holds of all texts. -/
@[elab_as_elim]
theorem block_induction {motive : List Char → Prop} (nil : motive [])
    (block : ∀ ps rest, ps ≠ [] → (∀ p ∈ ps, IsParameter p) → single.read rest = none →
      motive rest → motive (writeSingles ps ++ rest))
    (char : ∀ c s, single.read (c :: s) = none → motive s → motive (c :: s)) (s : List Char) :
    motive s := by
  -- The singles read so far are kept in front until the block is complete.
  have hblock : ∀ ps rest, (∀ p ∈ ps, IsParameter p) → single.read rest = none → motive rest →
      motive (writeSingles ps ++ rest) := by
    intro ps rest hps hread hrest
    by_cases hne : ps = []
    · rw [hne]
      exact hrest
    · exact block ps rest hne hps hread hrest
  have hall : ∀ ps, (∀ p ∈ ps, IsParameter p) → motive (writeSingles ps ++ s) := by
    induction s using Lexeme.scan_induction single with
    | nil => exact fun ps hps => hblock ps [] hps rfl nil
    | read c s p rest hread ih =>
        intro ps hps
        obtain ⟨hp, hs⟩ := single_read_eq_some_iff.1 hread
        rw [hs, ← writeSingles_singleton, ← List.append_assoc, ← writeSingles_append]
        exact ih _ (List.forall_mem_append.2 ⟨hps, List.forall_mem_singleton.2 hp⟩)
    | char c s hread ih =>
        exact fun ps hps => hblock ps _ hps hread (char c s hread (ih [] (List.forall_mem_nil _)))
  exact hall [] (List.forall_mem_nil _)

/-! ## Runs -/

/-- Two parameters or more, as a run has them. -/
structure IsRun (ps : List (List Char)) : Prop where
  two_le_length : 2 ≤ ps.length
  isParameter : ∀ p ∈ ps, IsParameter p

theorem IsRun.ne_nil {ps : List (List Char)} (h : IsRun ps) : ps ≠ [] :=
  List.ne_nil_of_length_pos (Nat.lt_of_lt_of_le Nat.zero_lt_two h.two_le_length)

theorem IsRun.isParameterList {ps : List (List Char)} (h : IsRun ps) : IsParameterList ps :=
  ⟨h.ne_nil, h.isParameter⟩

/-- A list of parameters is that of a single or of a run. -/
theorem IsParameterList.eq_singleton_or_isRun {ps : List (List Char)} (h : IsParameterList ps) :
    (∃ p, IsParameter p ∧ ps = [p]) ∨ IsRun ps := by
  match ps with
  | [] => exact absurd rfl h.1
  | [p] => exact .inl ⟨p, h.2 p List.mem_cons_self, rfl⟩
  | _ :: _ :: _ => exact .inr ⟨by simp, h.2⟩

theorem run_read_of_readSingles {s rest : List Char} {ps : List (List Char)}
    (h : readSingles s = (ps, rest)) :
    run.read s = if 2 ≤ ps.length then some (ps, rest) else none := by
  show readRun s = _
  rw [readRun, h]
  match ps with
  | [] => rfl
  | [_] => rfl
  | _ :: _ :: _ => simp

theorem run_read_eq_none {s : List Char} (h : single.read s = none) : run.read s = none :=
  run_read_of_readSingles (readSingles_of_read_eq_none h)

theorem beginsWith_run : run.BeginsWith escape := by
  intro s ps rest hread
  have hne : writeSingles ps ≠ [] := run.write_ne_nil hread
  cases ps with
  | nil => exact absurd rfl hne
  | cons p ps => exact ⟨_, rfl⟩

theorem isRun_of_mem_occurrences {s : List Char} {ps : List (List Char)}
    (h : ps ∈ run.occurrences s) : IsRun ps := by
  obtain ⟨t, rest, hread⟩ := run.exists_read_of_mem_occurrences h
  rw [run_read_of_readSingles (Prod.eta (readSingles t)).symm] at hread
  split at hread
  · rename_i hlength
    cases hread
    exact ⟨hlength, fun p hp => isParameter_of_mem_readSingles hp⟩
  · cases hread

/-- A sequence at which nothing begins that begins with an escape is scanned character by
character. -/
theorem scan_select_append {α : Type} {l : Lexeme α} (hbegin : l.BeginsWith escape)
    {ps : List (List Char)} {rest : List Char} (hps : IsParameterList ps)
    (hread : l.read (select ps ++ rest) = none) :
    l.scan (select ps ++ rest) = (select ps).map Sum.inl ++ l.scan rest := by
  obtain ⟨tail, hselect, htail⟩ := isOpenedBy_sequence
    (sequence_read_eq_some_iff.2 ⟨hps, rfl⟩ : sequence.read (select ps ++ rest) = some (ps, rest))
  have hcons : select ps = escape :: tail := hselect
  rw [hcons, List.cons_append] at hread ⊢
  rw [l.scan_cons_of_read_eq_none hread, hbegin.scan_append htail, List.map_cons,
    List.cons_append]

theorem occurrences_select_append {α : Type} {l : Lexeme α} (hbegin : l.BeginsWith escape)
    {ps : List (List Char)} {rest : List Char} (hps : IsParameterList ps)
    (hread : l.read (select ps ++ rest) = none) :
    l.occurrences (select ps ++ rest) = l.occurrences rest := by
  rw [Lexeme.occurrences, scan_select_append hbegin hps hread, List.filterMap_append,
    List.filterMap_map, ← Lexeme.occurrences]
  simp [Function.comp_def]

/-- A merged run is no run any more. -/
theorem run_scan_merged_append {ps : List (List Char)} (hps : IsRun ps) (rest : List Char) :
    run.scan (select ps ++ rest) = (select ps).map Sum.inl ++ run.scan rest :=
  scan_select_append beginsWith_run hps.isParameterList
    (run_read_eq_none (single_read_select_append hps.isParameterList hps.two_le_length rest))

/-- A block of at least two singles is scanned as a run, and a lone single as characters. -/
theorem run_scan_block_append {ps : List (List Char)} {rest : List Char}
    (hps : ∀ p ∈ ps, IsParameter p) (hrest : single.read rest = none) :
    run.scan (writeSingles ps ++ rest) =
      (if 2 ≤ ps.length then [Sum.inr ps] else (writeSingles ps).map Sum.inl) ++ run.scan rest := by
  have hread := run_read_of_readSingles (readSingles_writeSingles_append hps hrest)
  match ps with
  | [] => rfl
  | [p] =>
      rw [writeSingles_singleton] at hread ⊢
      exact scan_select_append beginsWith_run (hps p List.mem_cons_self).isParameterList hread
  | p :: q :: ps => exact run.scan_of_read hread

theorem run_substitute_block_append (f : List (List Char) → List Char) {ps : List (List Char)}
    {rest : List Char} (hps : ∀ p ∈ ps, IsParameter p) (hrest : single.read rest = none) :
    run.substitute f (writeSingles ps ++ rest) =
      (if 2 ≤ ps.length then f ps else writeSingles ps) ++ run.substitute f rest := by
  rw [Lexeme.substitute, run_scan_block_append hps hrest, List.flatMap_append, ← Lexeme.substitute]
  split
  · rw [List.flatMap_singleton, Lexeme.item]
  · rw [Lexeme.flatMap_item_map_inl]

theorem run_occurrences_block_append {ps : List (List Char)} {rest : List Char}
    (hps : ∀ p ∈ ps, IsParameter p) (hrest : single.read rest = none) :
    run.occurrences (writeSingles ps ++ rest) =
      (if 2 ≤ ps.length then [ps] else []) ++ run.occurrences rest := by
  rw [Lexeme.occurrences, run_scan_block_append hps hrest, List.filterMap_append,
    ← Lexeme.occurrences]
  split
  · rfl
  · rw [List.filterMap_map]
    simp [Function.comp_def]

theorem run_substitute_merged_append (f : List (List Char) → List Char) {ps : List (List Char)}
    (hps : IsRun ps) (rest : List Char) :
    run.substitute f (select ps ++ rest) = select ps ++ run.substitute f rest := by
  rw [Lexeme.substitute, run_scan_merged_append hps, List.flatMap_append,
    Lexeme.flatMap_item_map_inl, ← Lexeme.substitute]

theorem run_occurrences_merged_append {ps : List (List Char)} (hps : IsRun ps)
    (rest : List Char) : run.occurrences (select ps ++ rest) = run.occurrences rest :=
  occurrences_select_append beginsWith_run hps.isParameterList
    (run_read_eq_none (single_read_select_append hps.isParameterList hps.two_le_length rest))

end TerminalDecoration.Control
