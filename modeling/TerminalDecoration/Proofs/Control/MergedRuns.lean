/-
# Texts with all runs merged

When all runs of a text are merged at once, each block becomes one sequence. When a single run is
merged wherever its text stands, each block is regrouped: where the run stands in a longer one it
leaves a merged sequence between singles, and a merged sequence is never joined to anything again.
Lengths tell the two apart. Every joint between two singles that goes makes the text shorter, and a
joint beside a merged sequence never goes.
-/

import TerminalDecoration.Proofs.Control.Run

namespace TerminalDecoration.Control

open Text (Lexeme)

/-! ## All runs merged -/

/-- The text with every run merged into one sequence and all else kept. -/
def mergeRuns (s : List Char) : List Char := run.substitute select s

theorem mergeRuns_nil : mergeRuns [] = [] := run.substitute_nil select

/-- A block is merged if it is a run. -/
theorem mergeRuns_writeSingles_eq_ite {ps : List (List Char)} (hps : ∀ p ∈ ps, IsParameter p) :
    mergeRuns (writeSingles ps) = if 2 ≤ ps.length then select ps else writeSingles ps := by
  have hend : single.read [] = none := rfl
  have hmerged := run_substitute_block_append select hps hend
  rwa [List.append_nil, run.substitute_nil, List.append_nil, ← mergeRuns] at hmerged

/-- Merged, a block is one sequence. -/
theorem mergeRuns_writeSingles {ps : List (List Char)} (hne : ps ≠ [])
    (hps : ∀ p ∈ ps, IsParameter p) : mergeRuns (writeSingles ps) = select ps := by
  rw [mergeRuns_writeSingles_eq_ite hps]
  match ps with
  | [] => exact absurd rfl hne
  | [p] => rw [writeSingles_singleton, ite_self]
  | _ :: _ :: _ => rw [if_pos (by simp)]

/-- Blocks are merged one by one. -/
theorem mergeRuns_block_append {ps : List (List Char)} {rest : List Char}
    (hps : ∀ p ∈ ps, IsParameter p) (hrest : single.read rest = none) :
    mergeRuns (writeSingles ps ++ rest) = mergeRuns (writeSingles ps) ++ mergeRuns rest := by
  rw [mergeRuns_writeSingles_eq_ite hps, mergeRuns, mergeRuns,
    run_substitute_block_append select hps hrest]

theorem mergeRuns_merged_append {ps : List (List Char)} (hps : IsRun ps) (rest : List Char) :
    mergeRuns (select ps ++ rest) = select ps ++ mergeRuns rest :=
  run_substitute_merged_append select hps rest

theorem mergeRuns_cons {c : Char} {s : List Char} (h : single.read (c :: s) = none) :
    mergeRuns (c :: s) = c :: mergeRuns s :=
  run.substitute_cons_of_read_eq_none (run_read_eq_none h)

/-- Where no single followed none follows after the merge. -/
theorem single_read_mergeRuns {s : List Char} (h : single.read s = none) :
    single.read (mergeRuns s) = none := by
  apply single_read_substitute_eq_none _ (fun ps => ⟨_, rfl⟩) h
  intro t ps rest hread hnone
  rw [run_read_eq_none hnone] at hread
  cases hread

/-- No run is left. -/
theorem occurrences_mergeRuns (s : List Char) : run.occurrences (mergeRuns s) = [] := by
  induction s using block_induction with
  | nil => rw [mergeRuns_nil, run.occurrences_nil]
  | block ps rest hne hps hrest ih =>
      rw [mergeRuns_block_append hps hrest, mergeRuns_writeSingles hne hps]
      by_cases hlength : 2 ≤ ps.length
      · rw [run_occurrences_merged_append ⟨hlength, hps⟩, ih]
      · match ps with
        | [] => exact absurd rfl hne
        | [p] =>
            rw [← writeSingles_singleton,
              run_occurrences_block_append hps (single_read_mergeRuns hrest), ih, if_neg hlength,
              List.append_nil]
        | _ :: _ :: _ => exact absurd (by simp) hlength
  | char c s hread ih =>
      rw [mergeRuns_cons hread]
      have hkept := single_read_mergeRuns hread
      rw [mergeRuns_cons hread] at hkept
      rw [run.occurrences_cons_of_read_eq_none (run_read_eq_none hkept), ih]

/-! ## One run in a block -/

/-- The text with this run merged wherever its text stands. -/
def mergeRun (ps : List (List Char)) (s : List Char) : List Char :=
  (Lexeme.word (writeSingles ps)).substitute (fun _ => select ps) s

/-- The parameters of a block as they are grouped into sequences when this run is merged. -/
def regroup (qs : List (List Char)) : List (List Char) → List (List (List Char))
  | [] => []
  | p :: ps =>
    if qs ≠ [] ∧ qs <+: p :: ps then qs :: regroup qs ((p :: ps).drop qs.length)
    else [p] :: regroup qs ps
termination_by ps => ps.length
decreasing_by
  · rename_i h
    have hpos := List.length_pos_iff.2 h.1
    rw [List.length_drop, List.length_cons]
    omega
  · exact Nat.lt_succ_self _

/-- Singles at the front of a row of sequences have the parameters that the sequences begin
with. -/
theorem prefix_flatten_of_writeSingles {qs : List (List Char)} {gs : List (List (List Char))}
    {rest : List Char} (hqs : ∀ q ∈ qs, IsParameter q) (hgs : ∀ g ∈ gs, IsParameterList g)
    (hrest : single.read rest = none) (h : writeSingles qs <+: gs.flatMap select ++ rest) :
    qs <+: gs.flatten := by
  induction qs generalizing gs with
  | nil => exact List.nil_prefix
  | cons q qs ih =>
      rw [List.forall_mem_cons] at hqs
      obtain ⟨after, hafter⟩ := h
      have hread := single_read_writeSingles_append hqs.1 qs after
      rw [hafter] at hread
      cases gs with
      | nil =>
          rw [List.flatMap_nil, List.nil_append, hrest] at hread
          cases hread
      | cons g gs =>
          rw [List.forall_mem_cons] at hgs
          rw [List.flatMap_cons, List.append_assoc] at hread
          rcases hgs.1.eq_singleton_or_isRun with ⟨p, hp, rfl⟩ | hrun
          · rw [single_read_select_singleton_append hp, Option.some.injEq, Prod.mk.injEq] at hread
            rw [List.flatten_cons, List.singleton_append, ← hread.1, List.prefix_cons_inj]
            exact ih hqs.2 hgs.2 ⟨after, hread.2.symm⟩
          · rw [single_read_select_append hgs.1 hrun.two_le_length] at hread
            cases hread

/-- A block is a row of sequences with one parameter each. -/
theorem flatMap_select_singles (ps : List (List Char)) :
    (ps.map fun p => [p]).flatMap select = writeSingles ps := by
  rw [List.flatMap_map, writeSingles]

theorem isParameterList_of_mem_singles {ps : List (List Char)} (hps : ∀ p ∈ ps, IsParameter p) :
    ∀ g ∈ ps.map fun p => [p], IsParameterList g :=
  List.forall_mem_map.2 fun p hp => (hps p hp).isParameterList

/-- Singles stand at the front of a block exactly if their parameters do. -/
theorem writeSingles_isPrefix_append_iff {qs ps : List (List Char)} {rest : List Char}
    (hqs : ∀ q ∈ qs, IsParameter q) (hps : ∀ p ∈ ps, IsParameter p)
    (hrest : single.read rest = none) :
    writeSingles qs <+: writeSingles ps ++ rest ↔ qs <+: ps := by
  constructor
  · intro h
    rw [← flatMap_select_singles ps] at h
    have hfront := prefix_flatten_of_writeSingles hqs (isParameterList_of_mem_singles hps) hrest h
    rwa [← List.flatMap_def, List.flatMap_singleton'] at hfront
  · rintro ⟨more, rfl⟩
    rw [writeSingles_append, List.append_assoc]
    exact List.prefix_append _ _

section

variable {qs ps : List (List Char)} {s rest : List Char}

theorem regroup_append (hqs : qs ≠ []) (ps : List (List Char)) :
    regroup qs (qs ++ ps) = qs :: regroup qs ps := by
  obtain ⟨q, more, rfl⟩ := List.exists_cons_of_ne_nil hqs
  rw [List.cons_append, regroup, if_pos ⟨hqs, List.prefix_append (q :: more) ps⟩,
    ← List.cons_append, List.drop_left]

/-- A block in which the run does not stand stays as it is. -/
theorem regroup_eq_map_singleton (h : ¬ qs <:+: ps) : regroup qs ps = ps.map fun p => [p] := by
  induction ps with
  | nil => rw [regroup, List.map_nil]
  | cons p ps ih =>
      rw [List.infix_cons_iff, not_or] at h
      rw [regroup, if_neg (fun hfront => h.1 hfront.2), ih h.2, List.map_cons]

theorem beginsWith_word_writeSingles (hqs : IsRun qs) :
    (Lexeme.word (writeSingles qs)).BeginsWith escape := by
  obtain ⟨q, more, rfl⟩ := List.exists_cons_of_ne_nil hqs.ne_nil
  exact Lexeme.beginsWith_word escape _

theorem read_word_writeSingles_append (hqs : IsRun qs) (s : List Char) :
    (Lexeme.word (writeSingles qs)).read (writeSingles qs ++ s) = some ((), s) := by
  obtain ⟨q, more, rfl⟩ := List.exists_cons_of_ne_nil hqs.ne_nil
  exact (Lexeme.word_read_eq_some_iff (List.cons_ne_nil _ _)).2 rfl

theorem read_word_block_append (hqs : IsRun qs) (hps : ∀ p ∈ ps, IsParameter p)
    (hrest : single.read rest = none) (h : ¬ qs <+: ps) :
    (Lexeme.word (writeSingles qs)).read (writeSingles ps ++ rest) = none := by
  cases hread : (Lexeme.word (writeSingles qs)).read (writeSingles ps ++ rest) with
  | none => rfl
  | some found =>
      have hfront : writeSingles qs <+: writeSingles ps ++ rest :=
        ⟨found.2, ((Lexeme.word (writeSingles qs)).eq_of_read hread).symm⟩
      exact absurd ((writeSingles_isPrefix_append_iff hqs.isParameter hps hrest).1 hfront) h

theorem read_word_eq_none (hqs : IsRun qs) (hs : single.read s = none) :
    (Lexeme.word (writeSingles qs)).read s = none :=
  read_word_block_append hqs (List.forall_mem_nil _) hs
    fun hfront => hqs.ne_nil (List.prefix_nil.1 hfront)

theorem mergeRun_nil (qs : List (List Char)) : mergeRun qs [] = [] :=
  (Lexeme.word (writeSingles qs)).substitute_nil _

theorem mergeRun_cons (hqs : IsRun qs) {c : Char} (h : single.read (c :: s) = none) :
    mergeRun qs (c :: s) = c :: mergeRun qs s :=
  (Lexeme.word (writeSingles qs)).substitute_cons_of_read_eq_none (read_word_eq_none hqs h)

theorem single_read_mergeRun (hqs : IsRun qs) (h : single.read s = none) :
    single.read (mergeRun qs s) = none := by
  apply single_read_substitute_eq_none _ (fun _ => ⟨_, rfl⟩) h
  intro t _ rest hread hnone
  rw [read_word_eq_none hqs hnone] at hread
  cases hread

/-- Merging a run regroups every block by itself. -/
theorem mergeRun_block_append (hqs : IsRun qs) (hps : ∀ p ∈ ps, IsParameter p)
    (hrest : single.read rest = none) :
    mergeRun qs (writeSingles ps ++ rest) = (regroup qs ps).flatMap select ++ mergeRun qs rest := by
  fun_induction regroup qs ps with
  | case1 => rfl
  | case2 p ps hfront ih =>
      obtain ⟨more, hmore⟩ := hfront.2
      rw [← hmore, List.forall_mem_append] at hps
      rw [← hmore, List.drop_left] at ih ⊢
      rw [writeSingles_append, List.append_assoc, mergeRun,
        Lexeme.substitute_of_read _ (read_word_writeSingles_append hqs _), ← mergeRun, ih hps.2,
        List.flatMap_cons, List.append_assoc]
  | case3 p ps hfront ih =>
      have hread : (Lexeme.word (writeSingles qs)).read (writeSingles (p :: ps) ++ rest) = none :=
        read_word_block_append hqs hps hrest fun h => hfront ⟨hqs.ne_nil, h⟩
      obtain ⟨tail, hselect, htail⟩ : ∃ tail, select [p] = escape :: tail ∧ escape ∉ tail :=
        isOpenedBy_single (single_read_writeSingles_append (hps p List.mem_cons_self) ps rest)
      rw [List.forall_mem_cons] at hps
      rw [writeSingles_cons, hselect, List.append_assoc, List.cons_append] at hread ⊢
      rw [mergeRun, Lexeme.substitute_cons_of_read_eq_none _ hread,
        (beginsWith_word_writeSingles hqs).substitute_append _ htail, ← mergeRun, ih hps.2,
        List.flatMap_cons, hselect, List.cons_append, List.cons_append, List.append_assoc]

/-! ## What is left of the other runs -/

/-- If the run stands in no longer one, all other runs stay, and merging all of them has the same
result as before. -/
theorem mergeRun_of_forall_eq (hqs : IsRun qs)
    (h : ∀ ps ∈ run.occurrences s, qs <:+: ps → ps = qs) :
    run.occurrences (mergeRun qs s) = (run.occurrences s).filter (fun ps => !ps == qs) ∧
      mergeRuns (mergeRun qs s) = mergeRuns s := by
  induction s using block_induction with
  | nil =>
      rw [mergeRun_nil, run.occurrences_nil, List.filter_nil]
      exact ⟨rfl, rfl⟩
  | block ps rest hne hps hrest ih =>
      rw [run_occurrences_block_append hps hrest, List.forall_mem_append] at h
      obtain ⟨hoccurrences, hmerged⟩ := ih h.2
      have hnext := single_read_mergeRun hqs hrest
      rw [mergeRun_block_append hqs hps hrest, run_occurrences_block_append hps hrest,
        mergeRuns_block_append hps hrest, List.filter_append, ← hoccurrences, ← hmerged]
      by_cases heq : ps = qs
      · have hgroups : (regroup qs ps).flatMap select = select qs := by
          have hself := regroup_append hqs.ne_nil []
          rw [List.append_nil, regroup] at hself
          rw [heq, hself, List.flatMap_singleton]
        rw [hgroups, run_occurrences_merged_append hqs, mergeRuns_merged_append hqs, heq,
          if_pos hqs.two_le_length, mergeRuns_writeSingles hqs.ne_nil hqs.isParameter]
        simp
      · have hkept : ¬ qs <:+: ps := by
          intro hstands
          have hlength := Nat.le_trans hqs.two_le_length hstands.length_le
          rw [if_pos hlength, List.forall_mem_singleton] at h
          exact heq (h.1 hstands)
        have hgroups : (regroup qs ps).flatMap select = writeSingles ps := by
          rw [regroup_eq_map_singleton hkept, List.flatMap_map, writeSingles]
        rw [hgroups, run_occurrences_block_append hps hnext, mergeRuns_block_append hps hnext]
        split
        · simp [heq]
        · simp
  | char c s hread ih =>
      rw [run.occurrences_cons_of_read_eq_none (run_read_eq_none hread)] at h ⊢
      have hnext := single_read_mergeRun hqs hread
      rw [mergeRun_cons hqs hread] at hnext ⊢
      rw [run.occurrences_cons_of_read_eq_none (run_read_eq_none hnext), mergeRuns_cons hnext,
        mergeRuns_cons hread, (ih h).1, (ih h).2]
      exact ⟨rfl, rfl⟩

/-! ## What is lost in longer runs -/

theorem length_select (hne : ps ≠ []) :
    (select ps).length = ps.flatten.length + ps.length + 2 := by
  have hparameters : (List.intercalate [';'] ps).length + 1 = ps.flatten.length + ps.length := by
    induction ps with
    | nil => exact absurd rfl hne
    | cons p ps ih =>
        by_cases hps : ps = []
        · rw [hps, List.intercalate_singleton, List.flatten_singleton, List.length_singleton]
        · have hmore := ih hps
          rw [List.intercalate_cons_of_ne_nil hps, List.flatten_cons]
          simp only [List.length_append, List.length_cons, List.length_nil]
          omega
  rw [← hparameters, select]
  simp only [List.length_cons, List.length_append, List.length_nil]

/-- One sequence is shorter than two. -/
theorem length_mergeRuns_append_lt {ps' : List (List Char)} (hps : ∀ p ∈ ps, IsParameter p)
    (hps' : ∀ p ∈ ps', IsParameter p) (hne : ps ≠ []) (hne' : ps' ≠ []) :
    (mergeRuns (writeSingles (ps ++ ps'))).length <
      (mergeRuns (writeSingles ps)).length + (mergeRuns (writeSingles ps')).length := by
  have hboth : ps ++ ps' ≠ [] := List.append_ne_nil_of_left_ne_nil hne ps'
  rw [mergeRuns_writeSingles hboth (List.forall_mem_append.2 ⟨hps, hps'⟩),
    mergeRuns_writeSingles hne hps, mergeRuns_writeSingles hne' hps', length_select hboth,
    length_select hne, length_select hne', List.flatten_append, List.length_append,
    List.length_append]
  omega

theorem length_mergeRuns_append_le {ps' : List (List Char)} (hps : ∀ p ∈ ps, IsParameter p)
    (hps' : ∀ p ∈ ps', IsParameter p) :
    (mergeRuns (writeSingles (ps ++ ps'))).length ≤
      (mergeRuns (writeSingles ps)).length + (mergeRuns (writeSingles ps')).length := by
  by_cases hne : ps = []
  · rw [hne, List.nil_append]
    exact Nat.le_add_left _ _
  · by_cases hne' : ps' = []
    · rw [hne', List.append_nil]
      exact Nat.le_add_right _ _
    · exact Nat.le_of_lt (length_mergeRuns_append_lt hps hps' hne hne')

/-- Merged in groups, a block is no shorter than it is as one sequence, and it is longer if the run
stands in it and is not all of it. The singles `before` are those that wait for a sequence. -/
theorem length_mergeRuns_regroup (hqs : IsRun qs) (hps : ∀ p ∈ ps, IsParameter p)
    (hrest : single.read rest = none) {before : List (List Char)}
    (hbefore : ∀ p ∈ before, IsParameter p) :
    let whole := (mergeRuns (writeSingles (before ++ ps))).length + (mergeRuns rest).length
    let grouped :=
      (mergeRuns (writeSingles before ++ ((regroup qs ps).flatMap select ++ rest))).length
    whole ≤ grouped ∧ (qs <:+: ps → before ++ ps ≠ qs → whole < grouped) := by
  fun_induction regroup qs ps generalizing before with
  | case1 =>
      rw [List.append_nil, List.flatMap_nil, List.nil_append, mergeRuns_block_append hbefore hrest,
        List.length_append]
      refine ⟨Nat.le_refl _, fun hstands => ?_⟩
      exact absurd (List.infix_nil.1 hstands) hqs.ne_nil
  | case2 p ps hfront ih =>
      obtain ⟨more, hmore⟩ := hfront.2
      rw [← hmore, List.forall_mem_append] at hps
      rw [← hmore, List.drop_left] at ih ⊢
      have hnone : ∀ p ∈ ([] : List (List Char)), IsParameter p := List.forall_mem_nil _
      have hgroups := (ih hps.2 hnone).1
      rw [List.nil_append, writeSingles_nil, List.nil_append] at hgroups
      have hpart : ∀ p ∈ qs ++ more, IsParameter p := List.forall_mem_append.2 hps
      have hle := length_mergeRuns_append_le hbefore hpart
      have hle' := length_mergeRuns_append_le hps.1 hps.2
      have hsplit := single_read_select_append hqs.isParameterList hqs.two_le_length
        ((regroup qs more).flatMap select ++ rest)
      rw [List.flatMap_cons, List.append_assoc, mergeRuns_block_append hbefore hsplit,
        mergeRuns_merged_append hqs, List.length_append, List.length_append,
        ← mergeRuns_writeSingles hqs.ne_nil hqs.isParameter]
      refine ⟨by omega, fun _ hne => ?_⟩
      by_cases hbefore_nil : before = []
      · have hmore_ne : more ≠ [] := by
          rintro rfl
          rw [hbefore_nil, List.nil_append, List.append_nil] at hne
          exact hne rfl
        have hlt := length_mergeRuns_append_lt hps.1 hps.2 hqs.ne_nil hmore_ne
        omega
      · have hlt := length_mergeRuns_append_lt hbefore hpart hbefore_nil
          (List.append_ne_nil_of_left_ne_nil hqs.ne_nil more)
        omega
  | case3 p ps hfront ih =>
      rw [List.forall_mem_cons] at hps
      have hnext : ∀ q ∈ before ++ [p], IsParameter q :=
        List.forall_mem_append.2 ⟨hbefore, List.forall_mem_singleton.2 hps.1⟩
      obtain ⟨hle, hlt⟩ := ih hps.2 hnext
      rw [List.flatMap_cons, List.append_assoc, List.append_cons before p ps,
        ← writeSingles_singleton, ← List.append_assoc (writeSingles before), ← writeSingles_append]
      refine ⟨hle, fun hstands => hlt ?_⟩
      rcases List.infix_cons_iff.1 hstands with h | h
      · exact absurd ⟨hqs.ne_nil, h⟩ hfront
      · exact h

/-- Merging a run wherever its text stands never makes the text shorter that is left with all runs
merged, and makes it longer if the run stands in a longer one. -/
theorem length_mergeRuns_mergeRun (hqs : IsRun qs) (s : List Char) :
    (mergeRuns s).length ≤ (mergeRuns (mergeRun qs s)).length ∧
      ((∃ ps ∈ run.occurrences s, qs <:+: ps ∧ ps ≠ qs) →
        (mergeRuns s).length < (mergeRuns (mergeRun qs s)).length) := by
  induction s using block_induction with
  | nil =>
      rw [mergeRun_nil]
      refine ⟨Nat.le_refl _, fun hlonger => ?_⟩
      obtain ⟨ps, hps, -⟩ := hlonger
      rw [run.occurrences_nil] at hps
      cases hps
  | block ps rest hne hps hrest ih =>
      have hnone : ∀ p ∈ ([] : List (List Char)), IsParameter p := List.forall_mem_nil _
      obtain ⟨hle, hlt⟩ :=
        length_mergeRuns_regroup hqs hps (single_read_mergeRun hqs hrest) hnone
      rw [List.nil_append, writeSingles_nil, List.nil_append] at hle hlt
      rw [mergeRun_block_append hqs hps hrest, mergeRuns_block_append hps hrest, List.length_append]
      refine ⟨by omega, fun hlonger => ?_⟩
      obtain ⟨longer, hlonger, hstands, hother⟩ := hlonger
      rw [run_occurrences_block_append hps hrest, List.mem_append] at hlonger
      rcases hlonger with hblock | hmore
      · split at hblock
        · rw [List.mem_singleton.1 hblock] at hstands hother
          have hblock_lt := hlt hstands hother
          omega
        · cases hblock
      · have hmore_lt := ih.2 ⟨longer, hmore, hstands, hother⟩
        omega
  | char c s hread ih =>
      have hnext := single_read_mergeRun hqs hread
      rw [mergeRun_cons hqs hread] at hnext ⊢
      rw [run.occurrences_cons_of_read_eq_none (run_read_eq_none hread), mergeRuns_cons hread,
        mergeRuns_cons hnext, List.length_cons, List.length_cons]
      exact ⟨Nat.succ_le_succ ih.1, fun hlonger => Nat.succ_lt_succ (ih.2 hlonger)⟩

end

end TerminalDecoration.Control
