/-
# Lines part by part

A line is made of codes, which depend on the palette, and of text, spaces and a newline, which do
not. So a substitution in a line can be followed part by part, and what it does to every single code
it does to the line: if erasing a lexeme leaves of each code of one palette the code of another, it
leaves of each line the same line under the other palette. The text must be free of the character
that opens control strings, so that nothing in it joins a code beside it.
-/

import TerminalDecoration.Line.Stencil
import TerminalDecoration.Proofs.Text.Parts

namespace TerminalDecoration.Line

open Control (escape)
open Text (Lexeme)

/-! ## Characters of pieces -/

theorem flatten_modifyHead_cons {pieces : List (List Char)} (hpieces : pieces ≠ []) (c : Char) :
    (pieces.modifyHead (c :: ·)).flatten = c :: pieces.flatten := by
  obtain ⟨piece, more, rfl⟩ := List.exists_cons_of_ne_nil hpieces
  rfl

/-- The pieces of a text are all of it but the bars and what quotes them. -/
theorem flatten_pieces_sublist (s : List Char) : (pieces s).flatten.Sublist s := by
  fun_induction pieces s with
  | case1 => exact List.nil_sublist []
  | case2 s ih =>
      rw [flatten_modifyHead_cons (pieces_ne_nil s)]
      exact (ih.cons_cons '|').cons '\\'
  | case3 s ih => exact ih.cons '|'
  | case4 c s _ _ ih =>
      rw [flatten_modifyHead_cons (pieces_ne_nil s)]
      exact ih.cons_cons c

theorem not_mem_piece {c : Char} {s piece : List Char} (hc : c ∉ s) (hpiece : piece ∈ pieces s) :
    c ∉ piece := by
  intro hmem
  have hflatten : c ∈ (pieces s).flatten := List.mem_flatten.2 ⟨piece, hpiece, hmem⟩
  exact hc ((flatten_pieces_sublist s).subset hflatten)

/-! ## Layouts -/

section

variable {α : Type} {l : Lexeme α} {f : α → List Char} {c : Char}

/-- Before a line only the bold code is substituted. -/
theorem becomes_indented (hbegin : l.BeginsWith c) (hc : c ≠ ' ') {bold bold' : List Char}
    (hbold : l.Becomes f bold bold') (layout : Layout) :
    l.Becomes f (List.replicate layout.indent ' ' ++ if layout.flags.bold then bold else [])
      (List.replicate layout.indent ' ' ++ if layout.flags.bold then bold' else []) := by
  have hspaces : c ∉ List.replicate layout.indent ' ' := by
    intro hmem
    exact hc (List.eq_of_mem_replicate hmem)
  apply (hbegin.becomes_self hspaces).append
  cases layout.flags.bold with
  | true => exact hbold
  | false => exact Lexeme.Becomes.nil

theorem becomes_back (hbegin : l.BeginsWith c) (hc : c ≠ '\n') (layout : Layout) :
    l.Becomes f layout.back layout.back := by
  apply hbegin.becomes_self
  rw [Layout.back]
  cases layout.flags.linebreak with
  | true => exact fun hmem => hc (List.mem_singleton.1 hmem)
  | false => exact List.not_mem_nil

end

/-! ## From codes to lines -/

/-- A stencil has several holes if the style is compound, under every palette. -/
theorem isCompound_ofStyle (style : Style) (palette : Palette) (layout : Layout) :
    (Stencil.ofStyle style palette layout).isCompound = style.isCompound := by
  rw [Stencil.ofStyle]
  cases style.isCompound <;> rfl

/-- The indentation stands before everything else in a line. -/
theorem fill_ofStyle_eq (style : Style) (palette : Palette) (layout : Layout) (text : List Char) :
    (Stencil.ofStyle style palette layout).fill text =
      List.replicate layout.indent ' ' ++
        (Stencil.ofStyle style palette { layout with indent := 0 }).fill text := by
  have hfront : layout.front palette =
      List.replicate layout.indent ' ' ++ Layout.front { layout with indent := 0 } palette := rfl
  have hback : layout.back = Layout.back { layout with indent := 0 } := rfl
  rw [Stencil.ofStyle, Stencil.ofStyle, hfront, ← hback]
  cases style.isCompound <;> simp [Stencil.fill, Frame.fill]

section

variable {α : Type} {l : Lexeme α} {p q : Palette}

theorem leaves_partCodes (hcodes : ∀ a, l.Leaves (p.code a) (q.code a)) (part : Style.Part) :
    l.Leaves (part.codes p) (part.codes q) := by
  have hattributes : l.Leaves (part.attributes.flatMap p.code) (part.attributes.flatMap q.code) :=
    Lexeme.Becomes.flatMap fun a _ => hcodes a
  rw [Style.Part.codes, Style.Part.codes]
  cases part.background with
  | none => exact Lexeme.Becomes.nil.append hattributes
  | some c => exact (hcodes (.background c)).append hattributes

variable (hbegin : l.BeginsWith escape) (hcodes : ∀ a, l.Leaves (p.code a) (q.code a))

include hbegin hcodes

theorem leaves_fill_ofPart (part : Style.Part) {text : List Char} (htext : escape ∉ text) :
    l.Leaves ((Frame.ofPart p part).fill text) ((Frame.ofPart q part).fill text) :=
  ((leaves_partCodes hcodes part).append (hbegin.becomes_self htext)).append
    (hcodes (.effect .reset))

theorem leaves_fill (style : Style) (layout : Layout) {text : List Char} (htext : escape ∉ text) :
    l.Leaves ((Stencil.ofStyle style p layout).fill text)
      ((Stencil.ofStyle style q layout).fill text) := by
  have hfront : l.Leaves (layout.front p) (layout.front q) :=
    becomes_indented hbegin (by decide) (hcodes (.effect .bold)) layout
  have hback : l.Leaves layout.back layout.back := becomes_back hbegin (by decide) layout
  rw [Stencil.ofStyle, Stencil.ofStyle]
  cases style.isCompound with
  | true =>
      rw [if_pos rfl, if_pos rfl, Stencil.fill, Stencil.fill, List.zipWith_map_left,
        List.zipWith_map_left]
      have hparts : l.Leaves
          (List.zipWith (fun part => (Frame.ofPart p part).fill) style.parts (pieces text)).flatten
          (List.zipWith (fun part => (Frame.ofPart q part).fill) style.parts
            (pieces text)).flatten := by
        apply Lexeme.Becomes.zipWith
        intro part _ piece hpiece
        exact leaves_fill_ofPart hbegin hcodes part
          (not_mem_piece htext (List.mem_of_mem_take hpiece))
      exact (hfront.append hparts).append hback
  | false =>
      rw [if_neg Bool.false_ne_true, if_neg Bool.false_ne_true, Stencil.fill, Stencil.fill]
      have hself : l.Leaves text text := hbegin.becomes_self htext
      cases style.parts with
      | nil =>
          have hnil : l.Leaves [] [] := Lexeme.Becomes.nil
          exact ((hfront.append hnil).append hself).append (hnil.append hback)
      | cons part parts =>
          have hpart := leaves_partCodes hcodes part
          have hreset := hcodes (.effect .reset)
          exact ((hfront.append hpart).append hself).append (hreset.append hback)

/-- What is left of a line under one palette is the line under the other. -/
theorem leaves_line (hrewind : l.Leaves Control.rewind Control.rewind) (style : Style)
    (layout : Layout) (overwrite : Bool) {text : List Char} (htext : escape ∉ text) :
    l.Leaves ((Stencil.ofStyle style p layout).line overwrite text)
      ((Stencil.ofStyle style q layout).line overwrite text) := by
  have hfill := leaves_fill hbegin hcodes style layout htext
  cases overwrite with
  | true => exact hrewind.append hfill
  | false => exact hfill

end

end TerminalDecoration.Line
