/-
# Terminal controls

The control strings that the library writes: select sequences, which set colors and styles, and
the rewind, which goes back to the start of the line above.
-/

namespace TerminalDecoration.Control

/-- The character that opens a control string. -/
def escape : Char := '\x1b'

/-- A number in decimal digits. -/
def decimal (n : Nat) : List Char := Nat.toDigits 10 n

/-- The select sequence with these parameters. -/
def select (parameters : List (List Char)) : List Char :=
  escape :: '[' :: List.intercalate [';'] parameters ++ ['m']

/-- The select sequence of one numeric parameter. -/
def selectNumber (n : Nat) : List Char := select [decimal n]

/-- Back to the first column, then one line up. -/
def rewind : List Char := ['\r', escape, '[', 'A']

end TerminalDecoration.Control
