/-
# Quoted text

A text between quotes in which quotes, backslashes and everything that a reader could not see are
escaped: the usual controls by a letter, all others by their number in hexadecimal digits.
-/

import TerminalDecoration.Text.Ranges
import TerminalDecoration.Text.UnshownRanges

namespace TerminalDecoration.Text.Quoted

/-- Whether a character is shown by its number, if it has no letter. -/
def isUnshown (c : Char) : Bool :=
  if c.toNat < 0x7F then c.toNat < 0x20
  else if c.toNat < 0x10000 then inRanges basicUnshownRanges c.toNat
  else inRanges supplementaryUnshownRanges c.toNat

/-- One character between the quotes. -/
def encodeChar (c : Char) : List Char :=
  if c = '"' || c = '\\' then ['\\', c]
  else if c = '\n' then ['\\', 'n']
  else if c = '\r' then ['\\', 'r']
  else if c = '\t' then ['\\', 't']
  else if c.toNat = 0 then ['\\', '0']
  else if isUnshown c then ['\\', 'u', '{'] ++ Nat.toDigits 16 c.toNat ++ ['}']
  else [c]

/-- The text between quotes. -/
def encode (s : List Char) : List Char := '"' :: s.flatMap encodeChar ++ ['"']

end TerminalDecoration.Text.Quoted
