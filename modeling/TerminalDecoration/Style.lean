/-
# Styles and their names

A style decorates one line. Its name says all of it: words joined by `_` are the attributes of a
part, `_on_` puts a color behind them, and `_and_` separates the parts of a line that changes its
look on the way. A name is either understood as a whole or refused with the first fault in it.
-/

import TerminalDecoration.Palette
import TerminalDecoration.Text.Lexeme

namespace TerminalDecoration

open Text (Lexeme)

/-- What is wrong with a style name. -/
inductive NameError where
  /-- There is nothing in it. -/
  | empty
  /-- A word is neither an effect nor a color. -/
  | unknownAttribute (word name : List Char)
  /-- What stands behind is no color. -/
  | unknownBackground (word name : List Char)
  deriving DecidableEq, Repr

namespace NameError

/-- The word at fault. -/
def word? : NameError → Option (List Char)
  | empty => none
  | unknownAttribute word _ => some word
  | unknownBackground word _ => some word

/-- The name at fault. -/
def name? : NameError → Option (List Char)
  | empty => none
  | unknownAttribute _ name => some name
  | unknownBackground _ name => some name

/-- The fault in words. -/
def message : NameError → List Char
  | empty => "empty combination name".toList
  | unknownAttribute word name =>
    "unknown style or color '".toList ++ word ++ "' in '".toList ++ name ++ "'".toList
  | unknownBackground word name =>
    "unknown background color '".toList ++ word ++ "' in '".toList ++ name ++ "'".toList

end NameError

namespace Style

/-- One stretch of a line: a color behind it, if any, and its attributes. -/
structure Part where
  background : Option Color
  attributes : List Attribute
  deriving DecidableEq, Repr

/-- The codes that begin the part: the color behind, then the attributes in their order. -/
def Part.codes (part : Part) (palette : Palette) : List Char :=
  (part.background.map fun c => palette.code (.background c)).getD [] ++
    part.attributes.flatMap palette.code

/-- Stands between the words of a part. -/
def wordSeparator : Lexeme Unit := .word "_".toList

/-- Stands before the color behind. -/
def backgroundSeparator : Lexeme Unit := .word "_on_".toList

/-- Stands between parts. -/
def partSeparator : Lexeme Unit := .word "_and_".toList

/-- The attribute that a word of a name stands for. -/
def attributeOf (name word : List Char) : Except NameError Attribute :=
  match Attribute.named? word with
  | some a => .ok a
  | none => .error (.unknownAttribute word name)

/-- The color behind, from the texts after each `_on_`. Only the first of them counts. -/
def backgroundOf (name : List Char) : List (List Char) → Except NameError (Option Color)
  | [] => .ok none
  | word :: _ =>
    match Color.named? word with
    | some c => .ok (some c)
    | none => .error (.unknownBackground word name)

/-- Understands one part of a name: its words from left to right, then the color behind. -/
def partOf (name part : List Char) : Except NameError Part :=
  let (words, behind) := backgroundSeparator.cut part
  match (wordSeparator.pieces words).mapM (attributeOf name) with
  | .error e => .error e
  | .ok attributes =>
    match backgroundOf name behind with
    | .error e => .error e
    | .ok background => .ok ⟨background, attributes⟩

end Style

/-- The look of one line, with the name it was made from. -/
structure Style where
  name : List Char
  parts : List Style.Part
  deriving DecidableEq, Repr

namespace Style

/-- Understands a name, part after part. -/
def ofName (name : List Char) : Except NameError Style :=
  if name = [] then .error .empty
  else
    match (partSeparator.pieces name).mapM (partOf name) with
    | .error e => .error e
    | .ok parts => .ok ⟨name, parts⟩

/-- Whether the name has several parts. -/
def isCompound (style : Style) : Bool := !(partSeparator.occurrences style.name).isEmpty

end Style

end TerminalDecoration
