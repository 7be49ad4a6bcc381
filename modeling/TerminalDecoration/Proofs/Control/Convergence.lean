/-
# How merging comes to an end

Each merge that changes a text uses up at least two of its singles, because the merged sequence is
no single any more. The number of runs would be no such measure: a run that is merged inside a
longer one can leave a run on each side of it. The argument looks at the groups that a block
falls into. A group of one parameter is still a single; at no place among the groups does the merged
run begin again.
-/

import TerminalDecoration.Proofs.Control.RepeatedMerge

namespace TerminalDecoration.Control

open Text (Lexeme)

/-- Somewhere in the text two singles stand side by side. -/
def HasNeighbors (s : List Char) : Prop :=
  ∃ p q, IsParameter p ∧ IsParameter q ∧ select [p] ++ select [q] <:+: s

/-! ## Neighbors and runs -/

theorem run_read_neighbors {p q : List Char} (hp : IsParameter p) (hq : IsParameter q)
    (rest : List Char) : run.read (select [p] ++ (select [q] ++ rest)) ≠ none := by
  have hsingles := readSingles_of_read (single_read_select_singleton_append hp (select [q] ++ rest))
  rw [readSingles_of_read (single_read_select_singleton_append hq rest)] at hsingles
  rw [run_read_of_readSingles hsingles, if_pos (by simp)]
  exact Option.some_ne_none _

theorem IsRun.exists_eq_cons_cons {ps : List (List Char)} (h : IsRun ps) :
    ∃ p q more, ps = p :: q :: more := by
  have hlength := h.two_le_length
  match ps with
  | [] => simp at hlength
  | [_] => simp at hlength
  | p :: q :: more => exact ⟨p, q, more, rfl⟩

/-- A text has a run exactly if two singles stand side by side in it. -/
theorem hasNeighbors_iff {s : List Char} : HasNeighbors s ↔ run.occurrences s ≠ [] := by
  constructor
  · rintro ⟨p, q, hp, hq, hstands⟩ hnone
    obtain ⟨t, ⟨rest, hrest⟩, hsuffix⟩ := List.infix_iff_prefix_suffix.1 hstands
    have hread := run.occurrences_eq_nil_iff.1 hnone t hsuffix
    rw [← hrest, List.append_assoc] at hread
    exact run_read_neighbors hp hq rest hread
  · intro hruns
    obtain ⟨ps, hps⟩ := List.exists_mem_of_ne_nil _ hruns
    have hstands : writeSingles ps <:+: s := run.write_infix_of_mem_occurrences hps
    have hparameters := (isRun_of_mem_occurrences hps).isParameter
    obtain ⟨p, q, more, rfl⟩ := (isRun_of_mem_occurrences hps).exists_eq_cons_cons
    rw [writeSingles_cons, writeSingles_cons, ← List.append_assoc] at hstands
    exact ⟨p, q, hparameters p (by simp), hparameters q (by simp),
      (List.prefix_append _ _).isInfix.trans hstands⟩

/-! ## Groups of parameters -/

section

variable {qs ps : List (List Char)} {gs : List (List (List Char))} {s rest : List Char}

theorem flatten_regroup (qs ps : List (List Char)) : (regroup qs ps).flatten = ps := by
  fun_induction regroup qs ps with
  | case1 => rfl
  | case2 p ps hfront ih =>
      obtain ⟨more, hmore⟩ := hfront.2
      rw [← hmore, List.drop_left] at ih ⊢
      rw [List.flatten_cons, ih]
  | case3 p ps hfront ih => rw [List.flatten_cons, ih, List.singleton_append]

theorem isParameterList_of_mem_regroup (hps : ∀ p ∈ ps, IsParameter p) {g : List (List Char)}
    (hg : g ∈ regroup qs ps) : IsParameterList g := by
  refine ⟨?_, fun p hp => hps p ?_⟩
  · fun_induction regroup qs ps with
    | case1 => cases hg
    | case2 p ps hfront ih =>
        rcases List.mem_cons.1 hg with rfl | hg
        · exact hfront.1
        · exact ih (fun q hq => hps q (List.mem_of_mem_drop hq)) hg
    | case3 p ps hfront ih =>
        rcases List.mem_cons.1 hg with rfl | hg
        · exact List.cons_ne_nil p []
        · exact ih (List.forall_mem_cons.1 hps).2 hg
  · rw [← flatten_regroup qs ps]
    exact List.mem_flatten.2 ⟨g, hg, hp⟩

/-- Of the groups those are singles that have one parameter. -/
theorem length_occurrences_single_groups (hgs : ∀ g ∈ gs, IsParameterList g) (rest : List Char) :
    (single.occurrences (gs.flatMap select ++ rest)).length =
      gs.countP (·.length = 1) + (single.occurrences rest).length := by
  induction gs with
  | nil => simp
  | cons g gs ih =>
      rw [List.forall_mem_cons] at hgs
      obtain ⟨hg, hgs⟩ := hgs
      have hmore := ih hgs
      rw [List.flatMap_cons, List.append_assoc]
      rcases hg.eq_singleton_or_isRun with ⟨p, hp, rfl⟩ | hrun
      · rw [single.occurrences_of_read (single_read_select_singleton_append hp _), List.length_cons,
          List.countP_cons_of_pos (by simp)]
        omega
      · have hother : g.length ≠ 1 := Nat.ne_of_gt hrun.two_le_length
        rw [occurrences_select_append beginsWith_single hg
          (single_read_select_append hg hrun.two_le_length _),
          List.countP_cons_of_neg (by simpa using hother), hmore]

/-- Each time the run stands in a block, at least two of its parameters lose their singles. -/
theorem countP_regroup_le (hqs : IsRun qs) (ps : List (List Char)) :
    (regroup qs ps).countP (·.length = 1) ≤ ps.length ∧
      (qs <:+: ps → (regroup qs ps).countP (·.length = 1) + 2 ≤ ps.length) := by
  have htwo := hqs.two_le_length
  fun_induction regroup qs ps with
  | case1 => exact ⟨Nat.le_refl _, fun h => absurd (List.infix_nil.1 h) hqs.ne_nil⟩
  | case2 p ps hfront ih =>
      have hle := ih.1
      have hlength := hfront.2.length_le
      rw [List.length_drop] at hle
      rw [List.countP_cons_of_neg (by simpa using (Nat.ne_of_gt htwo))]
      exact ⟨by omega, fun _ => by omega⟩
  | case3 p ps hfront ih =>
      rw [List.countP_cons_of_pos (by simp), List.length_cons]
      refine ⟨Nat.succ_le_succ ih.1, fun hstands => ?_⟩
      rcases List.infix_cons_iff.1 hstands with h | h
      · exact absurd ⟨hqs.ne_nil, h⟩ hfront
      · exact Nat.succ_le_succ (ih.2 h)

/-- Nowhere among the groups does the run begin again. -/
theorem occurrences_word_regroup_append (hqs : IsRun qs) (hps : ∀ p ∈ ps, IsParameter p)
    (hrest : single.read rest = none) :
    (Lexeme.word (writeSingles qs)).occurrences ((regroup qs ps).flatMap select ++ rest) =
      (Lexeme.word (writeSingles qs)).occurrences rest := by
  have hbegin := beginsWith_word_writeSingles hqs
  fun_induction regroup qs ps with
  | case1 => rfl
  | case2 p ps hfront ih =>
      have hmore : ∀ q ∈ (p :: ps).drop qs.length, IsParameter q :=
        fun q hq => hps q (List.mem_of_mem_drop hq)
      rw [List.flatMap_cons, List.append_assoc, occurrences_select_append hbegin
        hqs.isParameterList (read_word_eq_none hqs (single_read_select_append
          hqs.isParameterList hqs.two_le_length _)), ih hmore]
  | case3 p ps hfront ih =>
      obtain ⟨hp, hmore⟩ := List.forall_mem_cons.1 hps
      have hgroups : ∀ g ∈ [p] :: regroup qs ps, IsParameterList g :=
        List.forall_mem_cons.2 ⟨hp.isParameterList, fun g => isParameterList_of_mem_regroup hmore⟩
      have hnone : (Lexeme.word (writeSingles qs)).read
          (select [p] ++ ((regroup qs ps).flatMap select ++ rest)) = none := by
        cases hread : (Lexeme.word (writeSingles qs)).read
          (select [p] ++ ((regroup qs ps).flatMap select ++ rest)) with
        | none => rfl
        | some found =>
            have hstands : writeSingles qs <+: ([p] :: regroup qs ps).flatMap select ++ rest := by
              rw [List.flatMap_cons, List.append_assoc]
              exact ⟨found.2, ((Lexeme.word (writeSingles qs)).eq_of_read hread).symm⟩
            have hparameters := prefix_flatten_of_writeSingles hqs.isParameter hgroups hrest hstands
            rw [List.flatten_cons, flatten_regroup] at hparameters
            exact absurd ⟨hqs.ne_nil, hparameters⟩ hfront
      rw [List.flatMap_cons, List.append_assoc,
        occurrences_select_append hbegin hp.isParameterList hnone, ih hmore]

/-! ## One merge -/

/-- The text of a run stands nowhere any more when the run is merged. -/
theorem not_infix_mergeRun (hqs : IsRun qs) (s : List Char) :
    ¬ writeSingles qs <:+: mergeRun qs s := by
  have hne : writeSingles qs ≠ [] := by
    obtain ⟨q, more, rfl⟩ := List.exists_cons_of_ne_nil hqs.ne_nil
    exact List.cons_ne_nil _ _
  rw [← Lexeme.word_occurrences_eq_nil_iff hne]
  induction s using block_induction with
  | nil => rw [mergeRun_nil, Lexeme.occurrences_nil]
  | block ps rest _ hps hrest ih =>
      rw [mergeRun_block_append hqs hps hrest,
        occurrences_word_regroup_append hqs hps (single_read_mergeRun hqs hrest), ih]
  | char c s hread ih =>
      have hnext := single_read_mergeRun hqs hread
      rw [mergeRun_cons hqs hread] at hnext ⊢
      rw [Lexeme.occurrences_cons_of_read_eq_none _ (read_word_eq_none hqs hnext), ih]

theorem length_occurrences_single_block_append (hps : ∀ p ∈ ps, IsParameter p)
    (rest : List Char) : (single.occurrences (writeSingles ps ++ rest)).length =
      ps.length + (single.occurrences rest).length := by
  have hlength := length_occurrences_single_groups (isParameterList_of_mem_singles hps) rest
  rwa [flatMap_select_singles, List.countP_map, List.countP_eq_length.2 (by simp)] at hlength

/-- Merging a run adds no single, and takes at least two away where the run stands. -/
theorem length_occurrences_single_mergeRun (hqs : IsRun qs) (s : List Char) :
    (single.occurrences (mergeRun qs s)).length ≤ (single.occurrences s).length ∧
      (qs ∈ run.occurrences s →
        (single.occurrences (mergeRun qs s)).length + 2 ≤ (single.occurrences s).length) := by
  induction s using block_induction with
  | nil =>
      rw [mergeRun_nil, run.occurrences_nil]
      exact ⟨Nat.le_refl _, fun h => absurd h List.not_mem_nil⟩
  | block ps rest hne hps hrest ih =>
      obtain ⟨hle, hfewer⟩ := countP_regroup_le hqs ps
      rw [mergeRun_block_append hqs hps hrest, length_occurrences_single_block_append hps,
        length_occurrences_single_groups fun g => isParameterList_of_mem_regroup hps]
      refine ⟨by omega, fun hmem => ?_⟩
      rw [run_occurrences_block_append hps hrest, List.mem_append] at hmem
      rcases hmem with hblock | hmore
      · split at hblock
        · have hblock_fewer := hfewer (List.mem_singleton.1 hblock ▸ List.infix_rfl)
          omega
        · cases hblock
      · have hmore_fewer := ih.2 hmore
        omega
  | char c s hread ih =>
      have hnext := single_read_mergeRun hqs hread
      rw [mergeRun_cons hqs hread] at hnext ⊢
      rw [run.occurrences_cons_of_read_eq_none (run_read_eq_none hread),
        single.occurrences_cons_of_read_eq_none hnext,
        single.occurrences_cons_of_read_eq_none hread]
      exact ih

theorem length_writeSingles (ps : List (List Char)) :
    (writeSingles ps).length = ps.flatten.length + 3 * ps.length := by
  induction ps with
  | nil => rfl
  | cons p ps ih =>
      rw [writeSingles_cons, List.length_append, ih, length_select (List.cons_ne_nil p []),
        List.flatten_singleton, List.length_singleton, List.flatten_cons, List.length_append,
        List.length_cons]
      omega

theorem length_select_lt_writeSingles (hqs : IsRun qs) :
    (select qs).length < (writeSingles qs).length := by
  have htwo := hqs.two_le_length
  rw [length_select hqs.ne_nil, length_writeSingles]
  omega

/-- A merge makes the text shorter. -/
theorem length_mergeRun_lt (hqs : IsRun qs) (hstands : writeSingles qs <:+: s) :
    (mergeRun qs s).length < s.length := by
  have hne : writeSingles qs ≠ [] := List.ne_nil_of_length_pos
    (Nat.lt_of_le_of_lt (Nat.zero_le _) (length_select_lt_writeSingles hqs))
  have hoccurs : (Lexeme.word (writeSingles qs)).occurrences s ≠ [] := fun hnone =>
    (Lexeme.word_occurrences_eq_nil_iff hne).1 hnone hstands
  have hpos := List.length_pos_iff.2 hoccurs
  have hle := (Lexeme.word (writeSingles qs)).length_substitute_add_le
    (fun _ => length_select_lt_writeSingles hqs) s
  rw [mergeRun]
  omega

/-! ## Merges of the first run -/

theorem exists_occurrences_eq_cons (h : HasNeighbors s) :
    ∃ qs more, run.occurrences s = qs :: more ∧ IsRun qs := by
  obtain ⟨qs, more, hruns⟩ := List.exists_cons_of_ne_nil (hasNeighbors_iff.1 h)
  exact ⟨qs, more, hruns, isRun_of_mem_occurrences (hruns ▸ List.mem_cons_self)⟩

/-- Where two singles stand side by side, a merge makes the text shorter, takes at least two singles
away and leaves nothing of the run that it merges. -/
theorem mergeFirstRun_of_hasNeighbors (h : HasNeighbors s) :
    ∃ qs, firstRun? s = some qs ∧ (mergeFirstRun s).length < s.length ∧
      (single.occurrences (mergeFirstRun s)).length + 2 ≤ (single.occurrences s).length ∧
      ¬ writeSingles qs <:+: mergeFirstRun s := by
  obtain ⟨qs, more, hruns, hqs⟩ := exists_occurrences_eq_cons h
  have hmem : qs ∈ run.occurrences s := hruns ▸ List.mem_cons_self
  rw [mergeFirstRun_of_occurrences_eq_cons hruns]
  exact ⟨qs, by rw [firstRun?, hruns, List.head?_cons],
    length_mergeRun_lt hqs (run.write_infix_of_mem_occurrences hmem),
    (length_occurrences_single_mergeRun hqs s).2 hmem, not_infix_mergeRun hqs s⟩

/-- A merge changes exactly the texts in which two singles stand side by side. -/
theorem mergeFirstRun_eq_self_iff : mergeFirstRun s = s ↔ ¬ HasNeighbors s := by
  constructor
  · intro hself h
    obtain ⟨qs, -, hshorter, -⟩ := mergeFirstRun_of_hasNeighbors h
    rw [hself] at hshorter
    exact Nat.lt_irrefl _ hshorter
  · intro h
    apply mergeFirstRun_of_occurrences_eq_nil
    rwa [hasNeighbors_iff, not_not] at h

/-- A merge for every two singles is enough. -/
theorem mergeFirstRun_iterate_eq {n : ℕ} (h : (single.occurrences s).length ≤ 2 * n + 1) :
    mergeFirstRun (mergeFirstRun^[n] s) = mergeFirstRun^[n] s := by
  induction n generalizing s with
  | zero =>
      show mergeFirstRun s = s
      apply mergeFirstRun_eq_self_iff.2
      intro hneighbors
      obtain ⟨qs, -, -, hfewer, -⟩ := mergeFirstRun_of_hasNeighbors hneighbors
      omega
  | succ n ih =>
      rw [Function.iterate_succ_apply]
      by_cases hneighbors : HasNeighbors s
      · obtain ⟨qs, -, -, hfewer, -⟩ := mergeFirstRun_of_hasNeighbors hneighbors
        exact ih (by omega)
      · have hself := mergeFirstRun_eq_self_iff.2 hneighbors
        rw [hself, Function.iterate_fixed hself, hself]

/-- One merge is enough for a single run. -/
theorem mergeFirstRun_mergeFirstRun (h : (run.occurrences s).length ≤ 1) :
    mergeFirstRun (mergeFirstRun s) = mergeFirstRun s := by
  by_cases hneighbors : HasNeighbors s
  · obtain ⟨qs, more, hruns, hqs⟩ := exists_occurrences_eq_cons hneighbors
    rw [hruns, List.length_cons] at h
    have hmore : more = [] := List.eq_nil_of_length_eq_zero (by omega)
    have hleft := (mergeRun_of_forall_eq hqs (s := s) (by simp [hruns, hmore])).1
    rw [hruns, hmore] at hleft
    rw [mergeFirstRun_of_occurrences_eq_cons hruns]
    exact mergeFirstRun_of_occurrences_eq_nil (by simpa using hleft)
  · have hself := mergeFirstRun_eq_self_iff.2 hneighbors
    rw [hself, hself]

end

/-- A merge changes a text exactly if two singles stand side by side in it. Then the text gets
shorter, loses at least two singles and does not hold the merged run any more. So as many merges as
the text has pairs of singles lead to a text that stays, in which no two singles stand side by side;
and one merge leads there if the text has at most one run. -/
theorem iterate_mergeFirstRun_converges (s : List Char) :
    (mergeFirstRun s = s ↔ ¬ HasNeighbors s) ∧
      (HasNeighbors s → ∃ qs, firstRun? s = some qs ∧
        (mergeFirstRun s).length < s.length ∧
        (single.occurrences (mergeFirstRun s)).length + 2 ≤ (single.occurrences s).length ∧
        ¬ writeSingles qs <:+: mergeFirstRun s) ∧
      (let last := mergeFirstRun^[(single.occurrences s).length / 2] s
       mergeFirstRun last = last ∧ ¬ HasNeighbors last) ∧
      ((run.occurrences s).length ≤ 1 →
        mergeFirstRun (mergeFirstRun s) = mergeFirstRun s) := by
  have hlast : mergeFirstRun (mergeFirstRun^[(single.occurrences s).length / 2] s) =
      mergeFirstRun^[(single.occurrences s).length / 2] s := mergeFirstRun_iterate_eq (by omega)
  exact ⟨mergeFirstRun_eq_self_iff, mergeFirstRun_of_hasNeighbors,
    ⟨hlast, mergeFirstRun_eq_self_iff.1 hlast⟩, mergeFirstRun_mergeFirstRun⟩

/-- The first run stands inside the second, and leaves a single behind it there; a run of three
equal singles is merged at once. -/
theorem iterate_mergeFirstRun_converges_overlapping :
    let text := "\x1b[1m\x1b[2mx\x1b[1m\x1b[2m\x1b[3m".toList
    let equal := "\x1b[7m\x1b[7m\x1b[7m".toList
    (HasNeighbors text ∧ ∃ qs, firstRun? text = some qs ∧
        (mergeFirstRun text).length < text.length ∧
        (single.occurrences (mergeFirstRun text)).length + 2 ≤ (single.occurrences text).length ∧
        ¬ writeSingles qs <:+: mergeFirstRun text) ∧
      ((run.occurrences equal).length ≤ 1 ∧
        mergeFirstRun (mergeFirstRun equal) = mergeFirstRun equal) := by
  intro text equal
  have htext : HasNeighbors text :=
    ⟨decimal 1, decimal 2, isParameter_decimal 1, isParameter_decimal 2,
      [], "x\x1b[1m\x1b[2m\x1b[3m".toList, by decide +kernel⟩
  have hequal : (run.occurrences equal).length ≤ 1 := by decide +kernel
  exact ⟨⟨htext, (iterate_mergeFirstRun_converges text).2.1 htext⟩, hequal,
    (iterate_mergeFirstRun_converges equal).2.2.2 hequal⟩

end TerminalDecoration.Control
