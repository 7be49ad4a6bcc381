/-
# Lines written as markup

A line can be decorated in two ways: with the stencil of a style, or with markup that names the same
attributes in the same places. The stencil knows codes and no tokens, the markup tokens and no
codes, and the two are read by different tables in different orders; yet they give the same line.
Only the text itself must hold no token, because a stencil leaves it as it is. Half a token at its
end or at its beginning does no harm: no token of an attribute begins or ends inside another.
-/

import TerminalDecoration.Proofs.Line.Parts
import TerminalDecoration.Proofs.Markup.KnownToken
import TerminalDecoration.Proofs.Style.Grammar

namespace TerminalDecoration

open Markup (knownToken substituteKnown)

/-! ## Markup for a style -/

namespace Style

/-- The markup for one part: the tokens of the color behind and of the attributes, the text, and the
reset. -/
def Part.markup (part : Part) (text : List Char) : List Char :=
  (part.background.map fun c => (Attribute.background c).token).getD [] ++
    part.attributes.flatMap Attribute.token ++ text ++ (Attribute.effect .reset).token

/-- The texts for the parts of a style: the whole text for a single part, its pieces for several. -/
def texts (style : Style) (text : List Char) : List (List Char) :=
  if style.parts.length = 1 then [text] else Line.pieces text

/-- The markup for a line in a style: the indentation, bold type if asked for, the parts with their
texts as far as there are both, and the newline if asked for. -/
def markup (style : Style) (layout : Line.Layout) (text : List Char) : List Char :=
  List.replicate layout.indent ' ' ++
    (if layout.flags.bold then (Attribute.effect .bold).token else []) ++
    (List.zipWith Part.markup style.parts (style.texts text)).flatten ++
    (if layout.flags.linebreak then ['\n'] else [])

end Style

/-! ## Tokens become codes -/

namespace Markup

theorem becomes_token (a : Attribute) : knownToken.Becomes Attribute.code a.token a.code :=
  Text.Lexeme.becomes_of_read fun _ => knownToken_read_eq_some_iff.2 rfl

/-- Text without tokens stays as it is before a token, whatever it ends in. -/
theorem becomes_append_token {text : List Char} (htext : ∀ a : Attribute, ¬ a.token <:+: text)
    (a : Attribute) : knownToken.Becomes Attribute.code (text ++ a.token) (text ++ a.code) := by
  intro after
  have happend := substituteKnown_append text after a
  rw [substituteKnown_eq_self htext] at happend
  exact happend

end Markup

namespace Line

open Markup (becomes_token becomes_append_token isOpenedBy_knownToken)

/-- The markup of a part becomes the text in the part's frame. -/
theorem becomes_partMarkup (part : Style.Part) {text : List Char}
    (htext : ∀ a : Attribute, ¬ a.token <:+: text) :
    knownToken.Becomes Attribute.code (part.markup text)
      ((Frame.ofPart .ansi part).fill text) := by
  have hbehind : knownToken.Becomes Attribute.code
      ((part.background.map fun c => (Attribute.background c).token).getD [])
      ((part.background.map fun c => Palette.ansi.code (.background c)).getD []) := by
    cases part.background with
    | none => exact Text.Lexeme.Becomes.nil
    | some c => exact becomes_token (.background c)
  have hfront : knownToken.Becomes Attribute.code (part.attributes.flatMap Attribute.token)
      (part.attributes.flatMap Palette.ansi.code) :=
    Text.Lexeme.Becomes.flatMap fun a _ => becomes_token a
  have hpart := (hbehind.append hfront).append (becomes_append_token htext (.effect .reset))
  rw [← List.append_assoc, ← List.append_assoc] at hpart
  exact hpart

/-- The stencil of a style that a name asks for writes its parts with their texts one after the
other. -/
theorem fill_ofStyle {style : Style} (hname : Style.IsNameOf style.parts style.name)
    (palette : Palette) (layout : Layout) (text : List Char) :
    (Stencil.ofStyle style palette layout).fill text =
      layout.front palette ++
        (List.zipWith (fun part piece => (Frame.ofPart palette part).fill piece) style.parts
          (style.texts text)).flatten ++
        layout.back := by
  have hcompound := Style.isCompound_iff hname
  have hpos := List.length_pos_iff.2 hname.parts_ne_nil
  rw [Stencil.ofStyle]
  cases hsplit : style.isCompound with
  | true =>
      have hlength : style.parts.length ≠ 1 := by
        have := hcompound.1 hsplit
        omega
      rw [Style.texts, if_neg hlength, if_pos rfl, Stencil.fill, List.zipWith_map_left]
  | false =>
      have hlength : style.parts.length = 1 := by
        have : ¬ 2 ≤ style.parts.length := by
          rw [← hcompound, hsplit]
          exact Bool.false_ne_true
        omega
      obtain ⟨part, hpart⟩ := List.length_eq_one_iff.1 hlength
      rw [Style.texts, if_pos hlength, if_neg Bool.false_ne_true, hpart]
      simp [Stencil.fill, Frame.fill]

/-- The markup of a line becomes the filled stencil. -/
theorem becomes_markup {style : Style} (hname : Style.IsNameOf style.parts style.name)
    (layout : Layout) {text : List Char}
    (hpieces : ∀ piece ∈ (style.texts text).take style.parts.length,
      ∀ a : Attribute, ¬ a.token <:+: piece) :
    knownToken.Becomes Attribute.code (style.markup layout text)
      ((Stencil.ofStyle style .ansi layout).fill text) := by
  rw [fill_ofStyle hname]
  have hparts : knownToken.Becomes Attribute.code
      (List.zipWith Style.Part.markup style.parts (style.texts text)).flatten
      (List.zipWith (fun part piece => (Frame.ofPart .ansi part).fill piece) style.parts
        (style.texts text)).flatten := by
    apply Text.Lexeme.Becomes.zipWith
    intro part _ piece hpiece
    exact becomes_partMarkup part (hpieces piece hpiece)
  have hbegin := isOpenedBy_knownToken.beginsWith
  have hfront := becomes_indented hbegin (by decide) (becomes_token (.effect .bold)) layout
  exact (hfront.append hparts).append (becomes_back hbegin (by decide) layout)

/-- A style and the markup that says the same give the same line, up to the one merge that markup is
given: as a new line, and over the line above. -/
theorem mergeFirstRun_fill_eq_resolve_markup [Text.WordClass] {name : List Char} {style : Style}
    (hname : Style.ofName name = .ok style) (layout : Layout) {text : List Char}
    (hpieces : ∀ piece ∈ (style.texts text).take style.parts.length,
      ∀ a : Attribute, ¬ a.token <:+: piece) :
    Control.mergeFirstRun ((Stencil.ofStyle style .ansi layout).fill text) =
        Markup.resolve (style.markup layout text) ∧
      Control.mergeFirstRun ((Stencil.ofStyle style .ansi layout).fillOver text) =
        Markup.resolve ((Attribute.effect .up).token ++ style.markup layout text) := by
  have hparts : Style.IsNameOf style.parts style.name := by
    obtain ⟨rfl, h⟩ := Style.ofName_eq_ok_iff.1 hname
    exact h
  have hline := becomes_markup hparts layout hpieces
  have hover := (becomes_token (.effect .up)).append hline
  constructor
  · rw [Markup.resolve, Markup.substituteCodes_eq_substituteKnown, substituteKnown,
      hline.substitute_eq]
  · rw [Markup.resolve, Markup.substituteCodes_eq_substituteKnown, substituteKnown,
      hover.substitute_eq]
    rfl

/-- Two parts, half tokens at both ends of the first piece, a quoted bar, and a third piece that is
not printed and so may hold a token. -/
theorem mergeFirstRun_fill_eq_resolve_markup_halves :
    let text := "red\x7da#\x7b|#\x7bno\x7d\\||#\x7bred\x7d".toList
    ∃ style, Style.ofName "bold_red_on_blue_and_up".toList = .ok style ∧
      (∀ piece ∈ (style.texts text).take style.parts.length,
        ∀ a : Attribute, ¬ a.token <:+: piece) ∧
      Control.mergeFirstRun ((Stencil.ofStyle style .ansi ⟨2, ⟨true, true⟩⟩).fill text) =
        Markup.resolve (style.markup ⟨2, ⟨true, true⟩⟩ text) := by
  intro text
  let style : Style := ⟨"bold_red_on_blue_and_up".toList,
    [⟨some .blue, [.effect .bold, .foreground .red]⟩, ⟨none, [.effect .up]⟩]⟩
  have hname : Style.ofName "bold_red_on_blue_and_up".toList = .ok style := by decide +kernel
  have hall : ∀ piece ∈ (style.texts text).take style.parts.length,
      ∀ a ∈ Attribute.all, ¬ a.token <:+: piece := by decide +kernel
  have hpieces : ∀ piece ∈ (style.texts text).take style.parts.length,
      ∀ a : Attribute, ¬ a.token <:+: piece :=
    fun piece hpiece a => hall piece hpiece a a.mem_all
  exact ⟨style, hname, hpieces, (mergeFirstRun_fill_eq_resolve_markup hname _ hpieces).1⟩

end Line

end TerminalDecoration
