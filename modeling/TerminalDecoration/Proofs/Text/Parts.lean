/-
# Substituting part by part

What a substitution makes of a text depends on what follows it, because an occurrence may reach over
its end. The parts that texts are built from here are such that it does not: whatever follows such a
part, it becomes the same, so a whole text can be followed part by part. Erasing a lexeme is the
substitution of nothing for it.
-/

import TerminalDecoration.Proofs.Text.Scan

namespace TerminalDecoration.Text.Lexeme

variable {α : Type} (l : Lexeme α)

/-! ## Parts -/

/-- The part `s` becomes `t` in the substitution, whatever follows. -/
def Becomes (f : α → List Char) (s t : List Char) : Prop :=
  ∀ after, l.substitute f (s ++ after) = t ++ l.substitute f after

variable {l}

section

variable {f : α → List Char}

namespace Becomes

theorem nil : l.Becomes f [] [] := fun _ => rfl

theorem append {s t s' t' : List Char} (h : l.Becomes f s t) (h' : l.Becomes f s' t') :
    l.Becomes f (s ++ s') (t ++ t') := by
  intro after
  rw [List.append_assoc, h, h', List.append_assoc]

/-- Parts that are put together become what they become alone. -/
theorem flatMap {ι : Type} {g g' : ι → List Char} {is : List ι}
    (h : ∀ i ∈ is, l.Becomes f (g i) (g' i)) : l.Becomes f (is.flatMap g) (is.flatMap g') := by
  induction is with
  | nil => exact nil
  | cons i is ih =>
      rw [List.forall_mem_cons] at h
      rw [List.flatMap_cons, List.flatMap_cons]
      exact h.1.append (ih h.2)

/-- Parts made of two lists become what they become alone. Members of the second list that have no
partner in the first do not matter. -/
theorem zipWith {ι κ : Type} {g g' : ι → κ → List Char} {is : List ι} {ks : List κ}
    (h : ∀ i ∈ is, ∀ k ∈ ks.take is.length, l.Becomes f (g i k) (g' i k)) :
    l.Becomes f (List.zipWith g is ks).flatten (List.zipWith g' is ks).flatten := by
  induction is generalizing ks with
  | nil => exact nil
  | cons i is ih =>
      cases ks with
      | nil => exact nil
      | cons k ks =>
          rw [List.length_cons, List.take_succ_cons] at h
          have hfirst : l.Becomes f (g i k) (g' i k) :=
            h i List.mem_cons_self k List.mem_cons_self
          rw [List.zipWith_cons_cons, List.zipWith_cons_cons, List.flatten_cons,
            List.flatten_cons]
          apply hfirst.append
          apply ih
          intro i' hi k' hk
          exact h i' (List.mem_cons_of_mem i hi) k' (List.mem_cons_of_mem k hk)

theorem substitute_eq {s t : List Char} (h : l.Becomes f s t) : l.substitute f s = t := by
  have hend := h []
  rwa [List.append_nil, l.substitute_nil, List.append_nil] at hend

end Becomes

/-- Text without the opening character stays as it is. -/
theorem BeginsWith.becomes_self {c : Char} (hbegin : l.BeginsWith c) {s : List Char}
    (hs : c ∉ s) : l.Becomes f s s :=
  fun after => hbegin.substitute_append f hs after

/-- An occurrence that does not depend on what follows becomes its substitute. -/
theorem becomes_of_read {s : List Char} {a : α}
    (h : ∀ after, l.read (s ++ after) = some (a, after)) : l.Becomes f s (f a) :=
  fun after => l.substitute_of_read (h after)

end

/-! ## Erasing -/

variable (l)

/-- The text without the occurrences of the lexeme. -/
def erase (s : List Char) : List Char := l.substitute (fun _ => []) s

/-- Of the part `s` the text `t` is left, whatever follows. -/
abbrev Leaves (s t : List Char) : Prop := l.Becomes (fun _ => []) s t

theorem erase_nil : l.erase [] = [] := l.substitute_nil _

theorem erase_of_read {s : List Char} {a : α} {rest : List Char}
    (h : l.read s = some (a, rest)) : l.erase s = l.erase rest := by
  rw [erase, l.substitute_of_read h, List.nil_append, erase]

theorem erase_cons_of_read_eq_none {c : Char} {s : List Char} (h : l.read (c :: s) = none) :
    l.erase (c :: s) = c :: l.erase s :=
  l.substitute_cons_of_read_eq_none h

/-- Erasing only takes characters away. -/
theorem erase_sublist (s : List Char) : (l.erase s).Sublist s := by
  induction s using scan_induction l with
  | nil => rw [l.erase_nil, List.sublist_nil]
  | read c s a rest hread ih =>
      rw [l.erase_of_read hread, l.eq_of_read hread]
      exact ih.trans (List.sublist_append_right _ rest)
  | char c s hread ih =>
      rw [l.erase_cons_of_read_eq_none hread]
      exact ih.cons_cons c

/-- Erasing changes a text exactly if something occurs in it. -/
theorem erase_eq_self_iff {s : List Char} : l.erase s = s ↔ l.occurrences s = [] := by
  constructor
  · intro h
    induction s using scan_induction l with
    | nil => exact l.occurrences_nil
    | read c s a rest hread ih =>
        have hshorter := l.length_lt_of_read hread
        have hle := (l.erase_sublist rest).length_le
        rw [← l.erase_of_read hread, h] at hle
        omega
    | char c s hread ih =>
        rw [l.erase_cons_of_read_eq_none hread] at h
        rw [l.occurrences_cons_of_read_eq_none hread]
        exact ih (List.cons.inj h).2
  · exact l.substitute_eq_self_of_occurrences_eq_nil _

variable {l}

namespace Becomes

theorem erase_append {s t : List Char} (h : l.Leaves s t) (after : List Char) :
    l.erase (s ++ after) = t ++ l.erase after := h after

theorem erase_eq {s t : List Char} (h : l.Leaves s t) : l.erase s = t := h.substitute_eq

/-- Nothing occurs in a part of which all is left. -/
theorem occurrences_eq_nil {s : List Char} (h : l.Leaves s s) : l.occurrences s = [] :=
  l.erase_eq_self_iff.1 h.erase_eq

end Becomes

end TerminalDecoration.Text.Lexeme
