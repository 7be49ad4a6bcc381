/-
# Markup for terminals

Every token whose name a table holds becomes the code of its attribute; other tokens stay as they
are. Background tokens are resolved in a pass of their own before all others, and at the end the
first run of select sequences is merged.
-/

import TerminalDecoration.Control.Run
import TerminalDecoration.Markup.Token

namespace TerminalDecoration.Markup

/-- What stands in the result for the background token of this name. -/
def resolveBackground (name : List Char) : List Char :=
  match Color.named? name with
  | some c => c.selectBackground
  | none => writeToken backgroundOpening name

/-- What stands in the result for the foreground token of this name. -/
def resolveForeground (name : List Char) : List Char :=
  match Color.named? name with
  | some c => c.selectForeground
  | none =>
    match Effect.named? name with
    | some e => e.code
    | none => writeToken opening name

variable [Text.WordClass]

/-- The text with all known tokens replaced by their codes. -/
def substituteCodes (s : List Char) : List Char :=
  foregroundToken.substitute resolveForeground (backgroundToken.substitute resolveBackground s)

/-- The text as a decorating terminal should read it. -/
def resolve (s : List Char) : List Char := Control.mergeFirstRun (substituteCodes s)

end TerminalDecoration.Markup
