/-
# Palettes

A palette decides which codes reach a sink. The plain palette writes nothing, except that it keeps
the rewind, so that a line meant to overwrite another does so on plain sinks too.
-/

import TerminalDecoration.Attribute

namespace TerminalDecoration

/-- The codes as they are, or none but the rewind. -/
inductive Palette where
  | ansi | plain
  deriving DecidableEq, Repr

namespace Palette

/-- The palette of a sink on which decoration is switched off or on. -/
def ofDisabled (disabled : Bool) : Palette := if disabled then plain else ansi

/-- Whether the palette writes nothing but the rewind. -/
def isPlain : Palette → Bool
  | ansi => false
  | plain => true

/-- The name that diagnostics show. -/
def label : Palette → List Char
  | ansi => "Ansi".toList
  | plain => "Plain".toList

/-- The code of an attribute under this palette. -/
def code : Palette → Attribute → List Char
  | ansi, a => a.code
  | plain, .effect .up => Control.rewind
  | plain, _ => []

/-- What the plain palette answers to any name, known or not. -/
def rewindOnly (name : List Char) : List Char :=
  if name = Effect.up.name then Control.rewind else []

/-- The code of the color of this name, in front. -/
def foreground? : Palette → List Char → Option (List Char)
  | ansi, name => (Color.named? name).map Color.selectForeground
  | plain, name => some (rewindOnly name)

/-- The code of the color of this name, behind. -/
def background? : Palette → List Char → Option (List Char)
  | ansi, name => (Color.named? name).map Color.selectBackground
  | plain, name => some (rewindOnly name)

/-- The code of the effect of this name. -/
def effect? : Palette → List Char → Option (List Char)
  | ansi, name => (Effect.named? name).map Effect.code
  | plain, name => some (rewindOnly name)

end Palette

end TerminalDecoration
