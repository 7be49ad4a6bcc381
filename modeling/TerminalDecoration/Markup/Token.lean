/-
# Tokens

A token stands in a text for an attribute: `#`, a brace, a name, a brace. The opening of a
background token also holds `on:`. A name is one word of at least one character, of the word
class in use; whether a table holds it is no matter here.
-/

import TerminalDecoration.Attribute
import TerminalDecoration.Text.Lexeme
import TerminalDecoration.Text.WordClass

namespace TerminalDecoration.Markup

open Text (Lexeme WordClass isWord)

/-- What a foreground token begins with. -/
def opening : List Char := ['#', '{']

/-- What a background token begins with. -/
def backgroundOpening : List Char := ['#', '{', 'o', 'n', ':']

variable [WordClass]

/-- Reads a token and gives its name. The closing brace is no word character, so the longest word
after the opening is the only possible name. -/
def readToken (start s : List Char) : Option (List Char × List Char) :=
  match Text.after? start s with
  | none => none
  | some body =>
    match body.takeWhile isWord, body.dropWhile isWord with
    | c :: name, '}' :: rest => some (c :: name, rest)
    | _, _ => none

/-- The token of this opening and this name. -/
def writeToken (start name : List Char) : List Char := start ++ name ++ ['}']

/-- A token read off the front is written back by `writeToken`. -/
theorem eq_writeToken_of_readToken {start s name rest : List Char}
    (h : readToken start s = some (name, rest)) : s = writeToken start name ++ rest := by
  unfold readToken at h
  split at h
  · simp at h
  · rename_i body hstart
    split at h
    · rename_i c word after htake hdrop
      cases h
      have hbody := List.takeWhile_append_dropWhile (p := isWord) (l := body)
      rw [htake, hdrop] at hbody
      rw [Text.after?_eq_some_iff.1 hstart, ← hbody]
      simp [writeToken]
    · simp at h

/-- The form of a token with this opening. -/
def token (start : List Char) : Lexeme (List Char) where
  read := readToken start
  write := writeToken start
  eq_of_read := eq_writeToken_of_readToken
  write_ne_nil _ := by simp [writeToken]

/-- A token for a color in front or for an effect. -/
def foregroundToken : Lexeme (List Char) := token opening

/-- A token for a color behind. -/
def backgroundToken : Lexeme (List Char) := token backgroundOpening

/-- The text of the rewind token. -/
def rewindText : List Char := writeToken opening Effect.up.name

/-- The token that goes back over the line above. -/
def rewindToken : Lexeme Unit := Lexeme.word rewindText

/-- Whether any token stands in the text. -/
def hasToken (s : List Char) : Bool :=
  !(foregroundToken.occurrences s).isEmpty || !(backgroundToken.occurrences s).isEmpty

end TerminalDecoration.Markup
