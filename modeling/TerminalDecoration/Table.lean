/-
# Tables

A finite table with at most one entry for each key. The entry written last comes first. Objects are
kept in tables under names.
-/

namespace TerminalDecoration

/-- The name of an object. -/
abbrev Handle := String

/-- The entries of a table. -/
structure Table (κ α : Type) where
  entries : List (κ × α)
  deriving Repr

namespace Table

variable {κ α : Type} [DecidableEq κ]

/-- The table without entries. -/
def empty : Table κ α := ⟨[]⟩

/-- The value at the key. -/
def get? (t : Table κ α) (k : κ) : Option α := t.entries.lookup k

/-- The table without an entry at the key. -/
def erase (t : Table κ α) (k : κ) : Table κ α := ⟨t.entries.filter fun entry => entry.1 ≠ k⟩

/-- The table with this value at the key. -/
def insert (t : Table κ α) (k : κ) (a : α) : Table κ α := ⟨(k, a) :: (t.erase k).entries⟩

@[simp]
theorem get?_empty (k : κ) : (empty : Table κ α).get? k = none := rfl

/-- The value at a key after an erasure. -/
theorem get?_erase (t : Table κ α) (k k' : κ) :
    (t.erase k).get? k' = if k' = k then none else t.get? k' := by
  simp only [get?, erase]
  induction t.entries with
  | nil => simp
  | cons entry entries ih =>
    obtain ⟨key, a⟩ := entry
    by_cases hkey : key = k <;> by_cases hk : k' = key <;>
      grind

/-- The value at a key after an insertion. -/
theorem get?_insert (t : Table κ α) (k k' : κ) (a : α) :
    (t.insert k a).get? k' = if k' = k then some a else t.get? k' := by
  have herase := t.get?_erase k k'
  unfold get? at herase ⊢
  simp only [insert, List.lookup_cons]
  by_cases hk : k' = k
  · simp [hk]
  · rw [beq_false_of_ne hk, herase, if_neg hk, if_neg hk]

/-- The table with these entries; of two at one key, it has the last. -/
def ofList (entries : List (κ × α)) : Table κ α :=
  entries.foldl (fun t entry => t.insert entry.1 entry.2) empty

/-- The number of entries. -/
def size (t : Table κ α) : Nat := t.entries.length

/-- Whether there is no entry. -/
def isEmpty (t : Table κ α) : Bool := t.entries.isEmpty

end Table

end TerminalDecoration
