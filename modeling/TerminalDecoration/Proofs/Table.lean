/-
# Keys and entries of a table

A table that was made by insertions has each key once, so its size is the number of keys that were
inserted. One table may keep all entries of a certain kind that another has; that stays so when both
are changed in the same way, and when only the other is, as far as it gets no entry of that kind. Or
it may be the same but for one key; that, too, stays so when both are changed in the same way.
-/

import Mathlib.Data.List.Dedup
import TerminalDecoration.Table

namespace TerminalDecoration.Table

variable {κ α : Type} [DecidableEq κ]

/-- The keys, that of the latest entry first. -/
def keys (t : Table κ α) : List κ := t.entries.map Prod.fst

theorem keys_insert (t : Table κ α) (k : κ) (a : α) :
    (t.insert k a).keys = k :: t.keys.filter (· ≠ k) := by
  rw [keys, keys, insert, erase, List.map_cons, List.filter_map]
  rfl

theorem mem_keys_iff {t : Table κ α} {k : κ} : k ∈ t.keys ↔ (t.get? k).isSome := by
  rw [keys, get?]
  induction t.entries with
  | nil => simp
  | cons entry entries ih =>
      by_cases hk : k = entry.1
      · simp [hk]
      · rw [List.map_cons, List.mem_cons, List.lookup_cons, beq_false_of_ne hk, ← ih]
        exact or_iff_right hk

/-- An insertion writes no key twice. -/
theorem nodup_keys_insert {t : Table κ α} (h : t.keys.Nodup) (k : κ) (a : α) :
    (t.insert k a).keys.Nodup := by
  rw [keys_insert, List.nodup_cons]
  exact ⟨by simp, h.filter _⟩

/-! ## Sizes -/

section

variable {t : Table κ α} {ks : List κ} (hks : ∀ k, (t.get? k).isSome ↔ k ∈ ks)

include hks

/-- A table is as large as a list of its keys without repetitions. -/
theorem size_eq_length_dedup (h : t.keys.Nodup) : t.size = ks.dedup.length := by
  have hperm : t.keys.Perm ks.dedup := by
    rw [List.perm_ext_iff_of_nodup h (List.nodup_dedup ks)]
    intro k
    rw [mem_keys_iff, hks, List.mem_dedup]
  rw [← hperm.length_eq, keys, List.length_map, size]

theorem isEmpty_eq : t.isEmpty = ks.isEmpty := by
  have hkeys : ks = [] ↔ t.keys = [] := by
    simp only [List.eq_nil_iff_forall_not_mem, mem_keys_iff, hks]
  rw [isEmpty, Bool.eq_iff_iff, List.isEmpty_iff, List.isEmpty_iff, hkeys, keys,
    List.map_eq_nil_iff]

end

/-- Every entry of this kind stands also in the other table. -/
def IsKeptIn (t : Table κ α) (p : α → Prop) (t' : Table κ α) : Prop :=
  ∀ k a, t.get? k = some a → p a → t'.get? k = some a

namespace IsKeptIn

variable {t t' : Table κ α} {p : α → Prop}

theorem refl (t : Table κ α) (p : α → Prop) : t.IsKeptIn p t := fun _ _ h _ => h

variable (h : t.IsKeptIn p t')

include h

theorem insert (k : κ) (a : α) : (t.insert k a).IsKeptIn p (t'.insert k a) := by
  intro k' a' hget hp
  rw [get?_insert] at hget ⊢
  split at hget
  · rename_i hk
    rw [if_pos hk]
    exact hget
  · rename_i hk
    rw [if_neg hk]
    exact h k' a' hget hp

theorem erase (k : κ) : (t.erase k).IsKeptIn p (t'.erase k) := by
  intro k' a' hget hp
  rw [get?_erase] at hget ⊢
  split at hget
  · cases hget
  · rename_i hk
    rw [if_neg hk]
    exact h k' a' hget hp

theorem insert_left (k : κ) {a : α} (ha : ¬ p a) : (t.insert k a).IsKeptIn p t' := by
  intro k' a' hget hp
  rw [get?_insert] at hget
  split at hget
  · cases hget
    exact absurd hp ha
  · exact h k' a' hget hp

theorem erase_left (k : κ) : (t.erase k).IsKeptIn p t' := by
  intro k' a' hget hp
  rw [get?_erase] at hget
  split at hget
  · cases hget
  · exact h k' a' hget hp

end IsKeptIn

/-- The second table is the first, but at this key it may have nothing. -/
def MayLack (t : Table κ α) (k : κ) (t' : Table κ α) : Prop :=
  ∀ k', t'.get? k' = t.get? k' ∨ k' = k ∧ t'.get? k' = none

theorem mayLack_erase (t : Table κ α) (k : κ) : t.MayLack k (t.erase k) := by
  intro k'
  rw [get?_erase]
  split
  · rename_i hk
    exact Or.inr ⟨hk, rfl⟩
  · exact Or.inl rfl

namespace MayLack

variable {t t' : Table κ α} {k : κ}

theorem insert (h : t.MayLack k t') (key : κ) (a : α) :
    (t.insert key a).MayLack k (t'.insert key a) := by
  intro k'
  rw [get?_insert, get?_insert]
  split
  · exact Or.inl rfl
  · exact h k'

theorem erase (h : t.MayLack k t') (key : κ) : (t.erase key).MayLack k (t'.erase key) := by
  intro k'
  rw [get?_erase, get?_erase]
  split
  · exact Or.inl rfl
  · exact h k'

end MayLack

end TerminalDecoration.Table
