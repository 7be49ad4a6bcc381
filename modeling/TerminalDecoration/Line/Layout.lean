/-
# The layout of a line

What a line gets from its surroundings and not from its style: spaces in front, bold type, and a
newline at the end.
-/

import TerminalDecoration.Palette

namespace TerminalDecoration.Line

/-- Decorations that hold for every line. -/
structure Flags where
  /-- Each line begins with the bold code. -/
  bold : Bool
  /-- Each line ends with a newline. -/
  linebreak : Bool
  deriving DecidableEq, Repr

namespace Flags

/-- The flags as a number: bold counts one, the newline two. -/
def bits (flags : Flags) : Nat := flags.bold.toNat + 2 * flags.linebreak.toNat

/-- The flags as diagnostics show them. -/
def label : Flags → List Char
  | ⟨false, false⟩ => "LineFlags(0x0)".toList
  | ⟨true, false⟩ => "LineFlags(BOLD)".toList
  | ⟨false, true⟩ => "LineFlags(LINEBREAK)".toList
  | ⟨true, true⟩ => "LineFlags(BOLD | LINEBREAK)".toList

end Flags

/-- The surroundings of a line at one moment. -/
structure Layout where
  /-- The number of spaces in front. -/
  indent : Nat
  flags : Flags
  deriving DecidableEq, Repr

namespace Layout

/-- What stands before everything else in the line. -/
def front (layout : Layout) (palette : Palette) : List Char :=
  List.replicate layout.indent ' ' ++
    if layout.flags.bold then palette.code (.effect .bold) else []

/-- What stands at the very end of the line. -/
def back (layout : Layout) : List Char := if layout.flags.linebreak then ['\n'] else []

end Layout

end TerminalDecoration.Line
