/-
# Guarded values

A value behind a lock is poisoned when a holder of the lock breaks down. The next one enters all the
same and finds what was left, because every state of the guarded values of this library is a good
one.
-/

namespace TerminalDecoration

/-- A value behind a lock. -/
structure Guarded (α : Type) where
  value : α
  /-- Whether a holder of the lock has broken down. -/
  poisoned : Bool
  deriving DecidableEq, Repr

namespace Guarded

/-- A value that nobody has touched. -/
def fresh {α : Type} (value : α) : Guarded α := ⟨value, false⟩

/-- Changes the value under the lock, poisoned or not; `breaksDown` says whether the holder breaks
down after the change. -/
def enter {α : Type} (guarded : Guarded α) (change : α → α) (breaksDown : Bool) : Guarded α :=
  ⟨change guarded.value, guarded.poisoned || breaksDown⟩

/-- Adds numbers to a guarded list, one entry each; whoever adds a negative one breaks down. -/
def addAll (guarded : Guarded (List Int)) (numbers : List Int) : Guarded (List Int) :=
  numbers.foldl (fun guarded n => guarded.enter (· ++ [n]) (n < 0)) guarded

end Guarded

end TerminalDecoration
