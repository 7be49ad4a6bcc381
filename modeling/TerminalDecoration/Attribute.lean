/-
# Attributes

The nine colors, each usable in front and behind, and the effects: six styles, the reset, and the
rewind of the cursor. Every attribute has a name, which users write, and a code, which terminals
read.
-/

import TerminalDecoration.Control

namespace TerminalDecoration

/-- A color of the palette; `normal` is the terminal's own. -/
inductive Color where
  | black | red | green | yellow | blue | magenta | cyan | white | normal
  deriving DecidableEq, Repr

namespace Color

/-- All colors in the order of their numbers. -/
def all : List Color := [black, red, green, yellow, blue, magenta, cyan, white, normal]

/-- The name that users write. -/
def name : Color → List Char
  | black => "black".toList
  | red => "red".toList
  | green => "green".toList
  | yellow => "yellow".toList
  | blue => "blue".toList
  | magenta => "magenta".toList
  | cyan => "cyan".toList
  | white => "white".toList
  | normal => "normal".toList

/-- The last digit of the select parameter. -/
def number : Color → Nat
  | black => 0
  | red => 1
  | green => 2
  | yellow => 3
  | blue => 4
  | magenta => 5
  | cyan => 6
  | white => 7
  | normal => 9

/-- The code that draws text in this color. -/
def selectForeground (c : Color) : List Char := Control.selectNumber (30 + c.number)

/-- The code that fills behind the text with this color. -/
def selectBackground (c : Color) : List Char := Control.selectNumber (40 + c.number)

/-- The color of this name. -/
def named? (name : List Char) : Option Color := all.find? fun c => c.name = name

end Color

/-- A style, the reset of all styles and colors, or the rewind of the cursor. -/
inductive Effect where
  | reset | bold | italic | underline | blink | inverse | strikethrough | up
  deriving DecidableEq, Repr

namespace Effect

/-- All effects in the order of their numbers, the rewind last. -/
def all : List Effect := [reset, bold, italic, underline, blink, inverse, strikethrough, up]

/-- The name that users write. -/
def name : Effect → List Char
  | reset => "reset".toList
  | bold => "bold".toList
  | italic => "italic".toList
  | underline => "underline".toList
  | blink => "blink".toList
  | inverse => "inverse".toList
  | strikethrough => "strikethrough".toList
  | up => "up".toList

/-- The code that has this effect. -/
def code : Effect → List Char
  | reset => Control.selectNumber 0
  | bold => Control.selectNumber 1
  | italic => Control.selectNumber 3
  | underline => Control.selectNumber 4
  | blink => Control.selectNumber 5
  | inverse => Control.selectNumber 7
  | strikethrough => Control.selectNumber 9
  | up => Control.rewind

/-- The effect of this name. -/
def named? (name : List Char) : Option Effect := all.find? fun e => e.name = name

end Effect

/-- A color in front, a color behind, or an effect. -/
inductive Attribute where
  | foreground (color : Color)
  | background (color : Color)
  | effect (effect : Effect)
  deriving DecidableEq, Repr

namespace Attribute

/-- The name of the color or of the effect. -/
def name : Attribute → List Char
  | foreground c => c.name
  | background c => c.name
  | effect e => e.name

/-- The code that terminals read. -/
def code : Attribute → List Char
  | foreground c => c.selectForeground
  | background c => c.selectBackground
  | effect e => e.code

/-- The attribute that a bare name stands for: an effect, else a color in front. -/
def named? (name : List Char) : Option Attribute :=
  match Effect.named? name with
  | some e => some (effect e)
  | none => (Color.named? name).map foreground

end Attribute

/-- What is said of a name that no table holds. -/
def unknownNameMessage (name : List Char) : List Char :=
  "unknown attribute name '".toList ++ name ++ "'".toList

end TerminalDecoration
