/-
# Resolved texts

A text is resolved if no token of an attribute stands in it. Resolving leads to such a text: a token
has its `#` only at the front, no code holds one, and what a code or a merged sequence begins with
stands in no token, so nothing that is written can complete what is left of a token. Resolving a
resolved text only merges its first run, and that leaves it resolved.
-/

import TerminalDecoration.Proofs.Control.Convergence
import TerminalDecoration.Proofs.Markup.KnownToken

namespace TerminalDecoration.Markup

open Text (Lexeme WordClass)
open Control (mergeFirstRun HasNeighbors)

/-- No token of an attribute stands in the text. -/
def IsResolved (s : List Char) : Prop := ∀ a : Attribute, ¬ a.token <:+: s

theorem isResolved_iff {s : List Char} : IsResolved s ↔ knownToken.occurrences s = [] := by
  constructor
  · intro h
    by_contra hoccurs
    obtain ⟨a, ha⟩ := List.exists_mem_of_ne_nil _ hoccurs
    exact h a (knownToken.write_infix_of_mem_occurrences ha)
  · intro h a hstands
    obtain ⟨t, ⟨rest, hrest⟩, hsuffix⟩ := List.infix_iff_prefix_suffix.1 hstands
    have hread := knownToken_read_eq_some_iff.2 hrest.symm
    rw [knownToken.occurrences_eq_nil_iff.1 h t hsuffix] at hread
    cases hread

/-! ## What codes begin with -/

theorem exists_code_eq_cons (a : Attribute) :
    ∃ c rest, a.code = c :: rest ∧ (c = Control.escape ∨ c = '\r') := by
  have hall : ∀ a ∈ Attribute.all,
      a.code.head? = some Control.escape ∨ a.code.head? = some '\r' := by decide
  rcases hall a a.mem_all with h | h
  · obtain ⟨rest, hcode⟩ := List.head?_eq_some_iff.1 h
    exact ⟨_, rest, hcode, .inl rfl⟩
  · obtain ⟨rest, hcode⟩ := List.head?_eq_some_iff.1 h
    exact ⟨_, rest, hcode, .inr rfl⟩

theorem not_mem_tail_token {c : Char} (hc : c = Control.escape ∨ c = '\r') (a : Attribute) :
    c ∉ a.token.tail := by
  have hall : ∀ a ∈ Attribute.all, Control.escape ∉ a.token ∧ '\r' ∉ a.token := by decide
  obtain ⟨hescape, hreturn⟩ := hall a a.mem_all
  intro hmem
  rcases hc with rfl | rfl
  · exact hescape (List.mem_of_mem_tail hmem)
  · exact hreturn (List.mem_of_mem_tail hmem)

/-! ## Resolving leads to a resolved text -/

theorem isResolved_substituteKnown (s : List Char) : IsResolved (substituteKnown s) := by
  rw [isResolved_iff]
  apply isDelimited_knownToken.occurrences_substitute_eq_nil isOpenedBy_knownToken.beginsWith
    Attribute.hash_not_mem_code
  · intro t a rest _ b
    obtain ⟨c, more, hcode, hc⟩ := exists_code_eq_cons b
    exact ⟨c, more, hcode, not_mem_tail_token hc a⟩
  · intro t _ hnone
    exact hnone

theorem IsResolved.mergeFirstRun {s : List Char} (h : IsResolved s) :
    IsResolved (mergeFirstRun s) := by
  obtain hself | ⟨ps, hps, hmerged⟩ := Control.mergeFirstRun_eq_self_or s
  · rw [hself]
    exact h
  · have hhash : '#' ∉ Control.select ps := by
      have hparameters : '#' ∉ List.intercalate [';'] ps :=
        Control.not_mem_intercalate (by decide) (by decide) hps.2
      simp [Control.select, Control.escape, hparameters]
    rw [hmerged, isResolved_iff]
    apply isDelimited_knownToken.occurrences_substitute_eq_nil isOpenedBy_knownToken.beginsWith
      fun _ => hhash
    · intro t a rest _ _
      exact ⟨Control.escape, _, rfl, not_mem_tail_token (.inl rfl) a⟩
    · intro t hsuffix _
      exact knownToken.occurrences_eq_nil_iff.1 (isResolved_iff.1 h) t hsuffix

theorem IsResolved.iterate_mergeFirstRun {s : List Char} (h : IsResolved s) (k : ℕ) :
    IsResolved (Control.mergeFirstRun^[k] s) := by
  induction k with
  | zero => exact h
  | succ k ih =>
      rw [Function.iterate_succ_apply']
      exact ih.mergeFirstRun

variable [WordClass]

theorem isResolved_resolve (s : List Char) : IsResolved (resolve s) := by
  rw [resolve_eq_mergeFirstRun]
  exact (isResolved_substituteKnown s).mergeFirstRun

/-- Resolving a resolved text is a merge. -/
theorem IsResolved.resolve_eq {s : List Char} (h : IsResolved s) :
    resolve s = Control.mergeFirstRun s := by
  rw [resolve_eq_mergeFirstRun, substituteKnown_eq_self h]

theorem resolve_iterate_succ (k : ℕ) (s : List Char) :
    resolve^[k + 1] s = mergeFirstRun^[k] (resolve s) := by
  induction k with
  | zero => rfl
  | succ k ih =>
      have hresolved : IsResolved (mergeFirstRun^[k] (resolve s)) :=
        (isResolved_resolve s).iterate_mergeFirstRun k
      rw [Function.iterate_succ_apply', ih, hresolved.resolve_eq, Function.iterate_succ_apply']

/-- Resolving leaves no token of an attribute, so resolving again and again is resolving once and
then merging. The texts that stay as they are are those with no such token and no two singles side
by side. -/
theorem resolve_again (s : List Char) :
    IsResolved (resolve s) ∧
      (∀ k, resolve^[k + 1] s = mergeFirstRun^[k] (resolve s)) ∧
      (resolve s = s ↔ IsResolved s ∧ ¬ HasNeighbors s) := by
  refine ⟨isResolved_resolve s, fun k => resolve_iterate_succ k s, ?_⟩
  constructor
  · intro hself
    have hresolved : IsResolved s := hself ▸ isResolved_resolve s
    rw [hresolved.resolve_eq] at hself
    exact ⟨hresolved, Control.mergeFirstRun_eq_self_iff.1 hself⟩
  · rintro ⟨hresolved, hneighbors⟩
    rw [hresolved.resolve_eq, Control.mergeFirstRun_eq_self_iff.2 hneighbors]

end TerminalDecoration.Markup
