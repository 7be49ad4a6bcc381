/-
# Markup for plain sinks

What is left of a text where nothing can be decorated: rewound lines are left out, then background
tokens are deleted, then all other tokens, whether a table holds their names or not.
-/

import TerminalDecoration.Markup.Rewound

namespace TerminalDecoration.Markup

/-- How many lines a rewind swallows: as many as the text has rewinds, and at least one. -/
def rewoundLines (s : List Char) : Nat := max 1 (rewindToken.occurrences s).length

variable [Text.WordClass]

/-- The text with all tokens deleted, background tokens in a pass before the others. -/
def deleteTokens (s : List Char) : List Char :=
  foregroundToken.substitute (fun _ => []) (backgroundToken.substitute (fun _ => []) s)

/-- The text as a plain sink should show it. -/
def plain (s : List Char) : List Char := deleteTokens (dropRewound (rewoundLines s) s)

end TerminalDecoration.Markup
