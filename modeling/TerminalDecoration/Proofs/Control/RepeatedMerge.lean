/-
# Merging again and again

Merging takes the first run of a text and rewrites it wherever its text stands, also where it is a
part of a longer run. So it depends on the runs of a text whether merging again and again ends with
all of them merged: it does exactly if no run stands inside another one that appears later.
-/

import Mathlib.Logic.Function.Iterate
import TerminalDecoration.Proofs.Control.MergedRuns

namespace TerminalDecoration.Control

/-! ## Merging the first run -/

/-- The runs of a text in the order in which they first appear. -/
def distinctRuns (s : List Char) : List (List (List Char)) := (run.occurrences s).eraseDups

section

variable {qs ps : List (List Char)} {s : List Char}

theorem mergeFirstRun_of_occurrences_eq_nil (h : run.occurrences s = []) : mergeFirstRun s = s := by
  rw [mergeFirstRun, firstRun?, h, List.head?_nil]

theorem mergeFirstRun_of_occurrences_eq_cons {more : List (List (List Char))}
    (h : run.occurrences s = qs :: more) : mergeFirstRun s = mergeRun qs s := by
  rw [mergeFirstRun, firstRun?, h, List.head?_cons, mergeRun]

theorem mergeFirstRun_mergeRuns (s : List Char) : mergeFirstRun (mergeRuns s) = mergeRuns s :=
  mergeFirstRun_of_occurrences_eq_nil (occurrences_mergeRuns s)

theorem mergeRuns_of_occurrences_eq_nil (h : run.occurrences s = []) : mergeRuns s = s :=
  run.substitute_eq_self_of_occurrences_eq_nil select h

theorem occurrences_eq_nil_of_distinctRuns (h : distinctRuns s = []) : run.occurrences s = [] := by
  cases hruns : run.occurrences s with
  | nil => rfl
  | cons ps more =>
      rw [distinctRuns, hruns, List.eraseDups_cons] at h
      cases h

theorem occurrences_eq_cons_of_distinctRuns {more : List (List (List Char))}
    (h : distinctRuns s = qs :: more) :
    ∃ rest, run.occurrences s = qs :: rest ∧
      (rest.filter fun ps => !ps == qs).eraseDups = more := by
  cases hruns : run.occurrences s with
  | nil =>
      rw [distinctRuns, hruns] at h
      cases h
  | cons ps rest =>
      rw [distinctRuns, hruns, List.eraseDups_cons] at h
      cases h
      exact ⟨rest, rfl, rfl⟩

/-- If the first run stands in no later one, the later ones are left. -/
theorem mergeFirstRun_of_forall_not_infix {more : List (List (List Char))}
    (h : distinctRuns s = qs :: more) (hlater : ∀ ps ∈ more, ¬ qs <:+: ps) :
    distinctRuns (mergeFirstRun s) = more ∧ mergeRuns (mergeFirstRun s) = mergeRuns s := by
  obtain ⟨rest, hruns, hmore⟩ := occurrences_eq_cons_of_distinctRuns h
  have hqs : IsRun qs := isRun_of_mem_occurrences (hruns ▸ List.mem_cons_self)
  have hother : ∀ ps ∈ run.occurrences s, qs <:+: ps → ps = qs := by
    intro ps hps hstands
    have hdistinct : ps ∈ distinctRuns s := List.mem_eraseDups.2 hps
    rw [h, List.mem_cons] at hdistinct
    exact hdistinct.resolve_right fun hmem => hlater ps hmem hstands
  obtain ⟨hleft, hmerged⟩ := mergeRun_of_forall_eq hqs hother
  rw [mergeFirstRun_of_occurrences_eq_cons hruns, distinctRuns, hleft, hruns]
  refine ⟨?_, hmerged⟩
  rw [List.filter_cons, if_neg (by simp), hmore]

theorem length_mergeRuns_mergeFirstRun (s : List Char) :
    (mergeRuns s).length ≤ (mergeRuns (mergeFirstRun s)).length := by
  cases hruns : run.occurrences s with
  | nil => exact Nat.le_of_eq (by rw [mergeFirstRun_of_occurrences_eq_nil hruns])
  | cons qs rest =>
      have hqs : IsRun qs := isRun_of_mem_occurrences (hruns ▸ List.mem_cons_self)
      rw [mergeFirstRun_of_occurrences_eq_cons hruns]
      exact (length_mergeRuns_mergeRun hqs s).1

/-- If the first run stands in a later one, something of that one stays unmerged. -/
theorem length_mergeRuns_lt_mergeFirstRun {more : List (List (List Char))}
    (h : distinctRuns s = qs :: more) (hps : ps ∈ more) (hstands : qs <:+: ps) :
    (mergeRuns s).length < (mergeRuns (mergeFirstRun s)).length := by
  obtain ⟨rest, hruns, hmore⟩ := occurrences_eq_cons_of_distinctRuns h
  have hqs : IsRun qs := isRun_of_mem_occurrences (hruns ▸ List.mem_cons_self)
  rw [← hmore, List.mem_eraseDups, List.mem_filter] at hps
  rw [mergeFirstRun_of_occurrences_eq_cons hruns]
  apply (length_mergeRuns_mergeRun hqs s).2
  refine ⟨ps, ?_, hstands, by simpa using hps.2⟩
  rw [hruns]
  exact List.mem_cons_of_mem qs hps.1

end

/-! ## Merging again and again -/

/-- One merge for each run is enough if no run stands inside another one that appears later. -/
theorem iterate_mergeFirstRun_eq_mergeRuns {s : List Char}
    (h : (distinctRuns s).Pairwise fun ps qs => ¬ ps <:+: qs) :
    mergeFirstRun^[(distinctRuns s).length] s = mergeRuns s := by
  induction hruns : distinctRuns s generalizing s with
  | nil => exact (mergeRuns_of_occurrences_eq_nil (occurrences_eq_nil_of_distinctRuns hruns)).symm
  | cons qs more ih =>
      rw [hruns, List.pairwise_cons] at h
      obtain ⟨hleft, hmerged⟩ := mergeFirstRun_of_forall_not_infix hruns h.1
      rw [List.length_cons, Function.iterate_succ_apply, ← hmerged]
      exact ih (hleft ▸ h.2) hleft

theorem length_mergeRuns_iterate (n : ℕ) (s : List Char) :
    (mergeRuns s).length ≤ (mergeRuns (mergeFirstRun^[n] s)).length := by
  induction n generalizing s with
  | zero => exact Nat.le_refl _
  | succ n ih => exact Nat.le_trans (length_mergeRuns_mergeFirstRun s) (ih (mergeFirstRun s))

/-- If all runs come out merged, no run stands inside another one that appears later. -/
theorem pairwise_distinctRuns_of_iterate_eq {n : ℕ} {s : List Char}
    (h : mergeFirstRun^[n] s = mergeRuns s) :
    (distinctRuns s).Pairwise fun ps qs => ¬ ps <:+: qs := by
  induction hruns : distinctRuns s generalizing s with
  | nil => exact List.Pairwise.nil
  | cons qs more ih =>
      -- One merge more changes nothing, so it does no harm to begin with the first run.
      have hnext : mergeFirstRun^[n] (mergeFirstRun s) = mergeRuns s := by
        rw [← Function.iterate_succ_apply, Function.iterate_succ_apply', h,
          mergeFirstRun_mergeRuns]
      have hlater : ∀ ps ∈ more, ¬ qs <:+: ps := by
        intro ps hps hstands
        have hlt := length_mergeRuns_lt_mergeFirstRun hruns hps hstands
        have hle := length_mergeRuns_iterate n (mergeFirstRun s)
        rw [hnext, mergeRuns_of_occurrences_eq_nil (occurrences_mergeRuns s)] at hle
        omega
      obtain ⟨hleft, hmerged⟩ := mergeFirstRun_of_forall_not_infix hruns hlater
      exact List.pairwise_cons.2 ⟨hlater, ih (hmerged ▸ hnext) hleft⟩

/-- Merging again and again reaches the text with all runs merged exactly if, among the different
runs in the order in which they appear, none stands inside a later one. Then one merge for each of
them is enough, and nothing changes any more. -/
theorem exists_iterate_mergeFirstRun_eq_mergeRuns_iff (s : List Char) :
    ((∃ n, mergeFirstRun^[n] s = mergeRuns s) ↔
        (distinctRuns s).Pairwise fun ps qs => ¬ ps <:+: qs) ∧
      ((distinctRuns s).Pairwise (fun ps qs => ¬ ps <:+: qs) →
        mergeFirstRun^[(distinctRuns s).length] s = mergeRuns s) ∧
      mergeFirstRun (mergeRuns s) = mergeRuns s := by
  refine ⟨⟨?_, ?_⟩, iterate_mergeFirstRun_eq_mergeRuns, mergeFirstRun_mergeRuns s⟩
  · rintro ⟨n, hn⟩
    exact pairwise_distinctRuns_of_iterate_eq hn
  · intro h
    exact ⟨_, iterate_mergeFirstRun_eq_mergeRuns h⟩

/-- A run of two inside one of three that appears later: the merge of the first breaks the second
up, and nothing puts it together again. -/
theorem iterate_mergeFirstRun_stops_early :
    let text := "\x1b[1m\x1b[2mx\x1b[1m\x1b[2m\x1b[3m".toList
    let stopped := "\x1b[1;2mx\x1b[1;2m\x1b[3m".toList
    mergeFirstRun text = stopped ∧ mergeFirstRun stopped = stopped ∧
      mergeRuns text = "\x1b[1;2mx\x1b[1;2;3m".toList ∧
      ∀ n, mergeFirstRun^[n] text ≠ mergeRuns text := by
  intro text stopped
  have hfirst : mergeFirstRun text = stopped := by decide +kernel
  have hstop : mergeFirstRun stopped = stopped := by decide +kernel
  have hmerged : mergeRuns text = "\x1b[1;2mx\x1b[1;2;3m".toList := by decide +kernel
  refine ⟨hfirst, hstop, hmerged, fun n => ?_⟩
  rw [hmerged]
  cases n with
  | zero => decide +kernel
  | succ n =>
      rw [Function.iterate_succ_apply, hfirst, Function.iterate_fixed hstop]
      decide +kernel

end TerminalDecoration.Control
