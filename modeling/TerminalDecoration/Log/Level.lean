/-
# Levels

How much a message matters, and a limit up to which messages are let through.
-/

namespace TerminalDecoration.Log

/-- How much a message matters, the weightiest first. -/
inductive Level where
  | error | warn | info | debug | trace
  deriving DecidableEq, Repr

namespace Level

/-- The lower, the weightier. -/
def rank : Level → Nat
  | error => 1
  | warn => 2
  | info => 3
  | debug => 4
  | trace => 5

/-- The level in letters. -/
def label : Level → List Char
  | error => "ERROR".toList
  | warn => "WARN".toList
  | info => "INFO".toList
  | debug => "DEBUG".toList
  | trace => "TRACE".toList

end Level

/-- The least weighty level that is let through, if any is. -/
inductive Limit where
  | off
  | upTo (level : Level)
  deriving DecidableEq, Repr

namespace Limit

/-- Whether a message of this level is let through. -/
def admits : Limit → Level → Bool
  | off, _ => false
  | upTo least, level => level.rank ≤ least.rank

/-- The limit in letters. -/
def label : Limit → List Char
  | off => "OFF".toList
  | upTo level => level.label

end Limit

end TerminalDecoration.Log
