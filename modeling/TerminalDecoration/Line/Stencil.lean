/-
# Stencils

A stencil is a style composed once under a palette and a layout, with holes for text: one hole for
the whole line, or one for each part of a compound style. Filling it gives the line to write.
-/

import TerminalDecoration.Line.Layout
import TerminalDecoration.Line.Pieces
import TerminalDecoration.Style

namespace TerminalDecoration.Line

/-- What stands before and after one hole. -/
structure Frame where
  before : List Char
  after : List Char
  deriving DecidableEq, Repr

namespace Frame

/-- The codes of a part before the hole and the reset after it. -/
def ofPart (palette : Palette) (part : Style.Part) : Frame :=
  ⟨part.codes palette, palette.code (.effect .reset)⟩

/-- The text in its frame. -/
def fill (frame : Frame) (text : List Char) : List Char := frame.before ++ text ++ frame.after

end Frame

/-- A decorated line with holes. -/
inductive Stencil where
  /-- One hole; the frame holds the layout too. -/
  | whole (frame : Frame)
  /-- One hole for each part, the layout once around all of them. -/
  | compound (front : List Char) (frames : List Frame) (back : List Char)
  deriving DecidableEq, Repr

namespace Stencil

/-- Composes a style. A style that is not compound has one part. -/
def ofStyle (style : Style) (palette : Palette) (layout : Layout) : Stencil :=
  let frames := style.parts.map (Frame.ofPart palette)
  if style.isCompound then .compound (layout.front palette) frames layout.back
  else
    let frame := frames.headD ⟨[], []⟩
    .whole ⟨layout.front palette ++ frame.before, frame.after ++ layout.back⟩

/-- Whether each part has a hole of its own. -/
def isCompound : Stencil → Bool
  | whole _ => false
  | compound .. => true

/-- The line with this text in the holes. Of a compound style, only as many pieces are
written as there are parts, and only as many parts as there are pieces. -/
def fill : Stencil → List Char → List Char
  | whole frame, text => frame.fill text
  | compound front frames back, text =>
    front ++ (List.zipWith Frame.fill frames (pieces text)).flatten ++ back

/-- The filled line, to be drawn over the line above. -/
def fillOver (stencil : Stencil) (text : List Char) : List Char :=
  Control.rewind ++ stencil.fill text

/-- The filled line, drawn over the line above if `overwrite` says so. -/
def line (stencil : Stencil) (overwrite : Bool) (text : List Char) : List Char :=
  if overwrite then stencil.fillOver text else stencil.fill text

end Stencil

end TerminalDecoration.Line
