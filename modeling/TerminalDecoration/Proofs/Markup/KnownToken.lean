/-
# One simultaneous substitution

Resolving runs over the text twice, first for background tokens and then for all others. This module
sets a single substitution beside it that knows nothing of word characters or passes: it looks for
the twenty-six tokens of the attributes and writes their codes. The two agree because a token has
its `#` only at the front, and because a code begins with a character that stands in no token. The
first pass can therefore neither complete a token for the second nor break one up, also where the
first leaves a token inside the remains of another.
-/

import Mathlib.Data.List.Basic
import TerminalDecoration.Markup.Resolve
import TerminalDecoration.Proofs.Attribute
import TerminalDecoration.Proofs.Markup.Token
import TerminalDecoration.Text.Word

namespace TerminalDecoration

/-! ## The tokens of the attributes -/

namespace Attribute

/-- The token that stands for the attribute. -/
def token : Attribute → List Char
  | foreground c => Markup.writeToken Markup.opening c.name
  | background c => Markup.writeToken Markup.backgroundOpening c.name
  | effect e => Markup.writeToken Markup.opening e.name

theorem eq_of_token_isPrefix {a b : Attribute} (h : a.token <+: b.token) : a = b := by
  have hall : ∀ a ∈ all, ∀ b ∈ all, a.token <+: b.token → a = b := by decide
  exact hall a a.mem_all b b.mem_all h

/-- At one place of a text at most one token stands. -/
theorem token_append_inj {a b : Attribute} {s t : List Char}
    (h : a.token ++ s = b.token ++ t) : a = b ∧ s = t := by
  have hab : a = b := by
    rcases List.prefix_or_prefix_of_prefix (List.prefix_append a.token s)
      (h ▸ List.prefix_append b.token t) with hpre | hpre
    · exact eq_of_token_isPrefix hpre
    · exact (eq_of_token_isPrefix hpre).symm
  subst hab
  exact ⟨rfl, List.append_cancel_left h⟩

/-- A token has its `#` only at the front. -/
theorem exists_token_eq_cons (a : Attribute) : ∃ tail, a.token = '#' :: tail ∧ '#' ∉ tail := by
  have hall : ∀ a ∈ all, a.token = '#' :: a.token.tail ∧ '#' ∉ a.token.tail := by decide
  exact ⟨a.token.tail, hall a a.mem_all⟩

theorem hash_not_mem_code (a : Attribute) : '#' ∉ a.code := by
  have hall : ∀ a ∈ all, '#' ∉ a.code := by decide
  exact hall a a.mem_all

end Attribute

namespace Markup

open Text (Lexeme WordClass isWord)

/-- The token of any attribute. -/
def knownToken : Lexeme Attribute where
  read s := Attribute.all.findSome? fun a => (Text.after? a.token s).map (a, ·)
  write := Attribute.token
  eq_of_read {s a rest} h := by
    obtain ⟨b, -, hb⟩ := List.exists_of_findSome?_eq_some h
    obtain ⟨t, ht, heq⟩ := Option.map_eq_some_iff.1 hb
    cases heq
    exact Text.after?_eq_some_iff.1 ht
  write_ne_nil {s a rest} _ := by
    obtain ⟨tail, htoken, -⟩ := a.exists_token_eq_cons
    simp [htoken]

/-- The text with every token of an attribute replaced by the attribute's code. -/
def substituteKnown (s : List Char) : List Char := knownToken.substitute Attribute.code s

theorem knownToken_read_eq_some_iff {s : List Char} {a : Attribute} {rest : List Char} :
    knownToken.read s = some (a, rest) ↔ s = a.token ++ rest := by
  refine ⟨knownToken.eq_of_read, ?_⟩
  rintro rfl
  cases hread : knownToken.read (a.token ++ rest) with
  | none =>
      have hnone := List.findSome?_eq_none_iff.1 hread a a.mem_all
      rw [Text.after?_eq_some_iff.2 rfl] at hnone
      cases hnone
  | some found =>
      obtain ⟨b, t⟩ := found
      obtain ⟨rfl, rfl⟩ := Attribute.token_append_inj (knownToken.eq_of_read hread)
      rfl

theorem isDelimited_knownToken : knownToken.IsDelimited := by
  intro s a rest _ after
  exact knownToken_read_eq_some_iff.2 rfl

theorem isOpenedBy_knownToken : knownToken.IsOpenedBy '#' := by
  intro s a rest _
  exact a.exists_token_eq_cons

/-- No occurrence is missed, whatever stands around it. -/
theorem knownToken_scan_append (before after : List Char) (a : Attribute) :
    knownToken.scan (before ++ a.token ++ after) =
      knownToken.scan before ++ .inr a :: knownToken.scan after := by
  have hread : knownToken.read (a.token ++ after) = some (a, after) :=
    knownToken_read_eq_some_iff.2 rfl
  rw [← knownToken.scan_of_read hread, List.append_assoc]
  obtain ⟨tail, htoken, -⟩ := a.exists_token_eq_cons
  rw [htoken, List.cons_append]
  exact isDelimited_knownToken.scan_append_cons isOpenedBy_knownToken.isNotInside before _

theorem substituteKnown_append (before after : List Char) (a : Attribute) :
    substituteKnown (before ++ a.token ++ after) =
      substituteKnown before ++ a.code ++ substituteKnown after := by
  rw [substituteKnown, Lexeme.substitute, knownToken_scan_append, List.flatMap_append,
    List.flatMap_cons, ← List.append_assoc]
  rfl

theorem substituteKnown_eq_self {s : List Char} (h : ∀ a : Attribute, ¬ a.token <:+: s) :
    substituteKnown s = s := by
  apply knownToken.substitute_eq_self_of_occurrences_eq_nil
  induction s using Lexeme.scan_induction knownToken with
  | nil => exact knownToken.occurrences_nil
  | read c s a rest hread ih =>
      refine absurd ?_ (h a)
      rw [knownToken_read_eq_some_iff.1 hread]
      exact (List.prefix_append a.token rest).isInfix
  | char c s hread ih =>
      rw [knownToken.occurrences_cons_of_read_eq_none hread]
      exact ih fun a ha => h a (ha.trans (List.suffix_cons c s).isInfix)

/-- Of two occurrences in one text the second begins behind the first. -/
theorem length_add_le_of_token_append {before before' after after' : List Char}
    {a b : Attribute} (h : before ++ a.token ++ after = before' ++ b.token ++ after')
    (hle : before.length ≤ before'.length) :
    (before = before' ∧ a = b) ∨ before.length + a.token.length ≤ before'.length := by
  rw [List.append_assoc, List.append_assoc] at h
  obtain ⟨x, rfl⟩ : before <+: before' :=
    List.prefix_of_prefix_length_le (List.prefix_append before _)
      (h ▸ List.prefix_append before' _) hle
  rw [List.append_assoc, List.append_cancel_left_eq] at h
  cases x with
  | nil =>
      left
      exact ⟨(List.append_nil before).symm, (Attribute.token_append_inj h).1⟩
  | cons c x =>
      right
      obtain ⟨tail, htoken, hhash⟩ := a.exists_token_eq_cons
      obtain ⟨tail', htoken', -⟩ := b.exists_token_eq_cons
      rw [htoken, htoken', List.cons_append, List.cons_append] at h
      have hrest := (List.cons.inj h).2
      rcases Nat.lt_or_ge x.length tail.length with hshort | hlong
      · -- The `#` of the second token would have to stand in the tail of the first.
        obtain ⟨y, hy⟩ := List.prefix_of_prefix_length_le (List.prefix_append x _)
          (hrest ▸ List.prefix_append tail after) (Nat.le_of_lt hshort)
        rw [← hy, List.append_assoc, List.append_cancel_left_eq] at hrest
        cases y with
        | nil =>
            rw [← hy] at hshort
            simp at hshort
        | cons d y =>
            refine absurd ?_ hhash
            rw [← hy, (List.cons.inj hrest).1]
            simp
      · simp only [htoken, List.length_append, List.length_cons]
        omega

/-! ## Codes and names -/

theorem resolveBackground_name (c : Color) :
    resolveBackground c.name = (Attribute.background c).code := by
  rw [resolveBackground, Color.named?_eq_some_iff.2 rfl]
  rfl

theorem resolveForeground_color_name (c : Color) :
    resolveForeground c.name = (Attribute.foreground c).code := by
  rw [resolveForeground, Color.named?_eq_some_iff.2 rfl]
  rfl

theorem resolveForeground_effect_name (e : Effect) :
    resolveForeground e.name = (Attribute.effect e).code := by
  cases e <;> rfl

/-- A background name of no color stays as it is written. -/
theorem resolveBackground_eq_writeToken {name : List Char} (h : ∀ c : Color, name ≠ c.name) :
    resolveBackground name = writeToken backgroundOpening name := by
  cases hcolor : Color.named? name with
  | none => rw [resolveBackground, hcolor]
  | some c => exact absurd (Color.named?_eq_some_iff.1 hcolor) (h c)

/-- A foreground name of no color and no effect stays as it is written. -/
theorem resolveForeground_eq_writeToken {name : List Char} (hcolor : ∀ c : Color, name ≠ c.name)
    (heffect : ∀ e : Effect, name ≠ e.name) :
    resolveForeground name = writeToken opening name := by
  cases hc : Color.named? name with
  | some c => exact absurd (Color.named?_eq_some_iff.1 hc) (hcolor c)
  | none =>
      cases he : Effect.named? name with
      | some e => exact absurd (Effect.named?_eq_some_iff.1 he) (heffect e)
      | none => rw [resolveForeground, hc, he]

section

variable [WordClass]

theorem isName_name (a : Attribute) : IsName a.name := by
  have hall : ∀ a ∈ Attribute.all, a.name ≠ [] ∧ a.name.all Char.isAlphanum = true := by decide
  obtain ⟨hne, hletters⟩ := hall a a.mem_all
  exact ⟨hne, fun c hc => WordClass.isWord_of_isAlphanum (List.all_eq_true.1 hletters c hc)⟩

/-! ## The first pass leaves the tokens of the second alone -/

/-- What a background token becomes begins with a character that only opens a foreground token. -/
theorem exists_resolveBackground_eq_cons {name : List Char} (hname : IsName name)
    (behind : List Char) :
    ∃ c t, resolveBackground behind = c :: t ∧ c ∉ (writeToken opening name).tail := by
  have hescape : isWord Control.escape = false := WordClass.isWord_eq_false (by decide)
  have hhash : isWord '#' = false := WordClass.isWord_eq_false (by decide)
  have htail : (writeToken opening name).tail = '{' :: (name ++ ['}']) := rfl
  rw [htail]
  cases hcolor : Color.named? behind with
  | none =>
      refine ⟨'#', _, by rw [resolveBackground, hcolor]; rfl, ?_⟩
      simp [hname.not_mem hhash]
  | some c =>
      refine ⟨Control.escape, _, by rw [resolveBackground, hcolor]; rfl, ?_⟩
      rw [List.mem_cons, List.mem_append, List.mem_singleton, not_or, not_or]
      exact ⟨by decide, hname.not_mem hescape, by decide⟩

/-- The first pass makes up no token for the second. -/
theorem exists_read_of_read_substitute_background {c : Char} {s name rest : List Char}
    (h : foregroundToken.read (c :: backgroundToken.substitute resolveBackground s) =
      some (name, rest)) :
    ∃ rest', foregroundToken.read (c :: s) = some (name, rest') := by
  have hname : IsName name := (token_read_eq_some_iff.1 h).1
  exact isDelimited_foregroundToken.exists_read_of_read_substitute
    (exists_resolveBackground_eq_cons hname) h

theorem occurrences_writeToken_background {name : List Char} (hname : IsName name)
    (t : List Char) :
    foregroundToken.occurrences (writeToken backgroundOpening name ++ t) =
      foregroundToken.occurrences t := by
  have hhash : '#' ∉ ['{', 'o', 'n', ':'] ++ name ++ ['}'] := by
    have hhash := hname.not_mem (WordClass.isWord_eq_false (c := '#') (by decide))
    simp [hhash]
  have hsplit : writeToken backgroundOpening name ++ t =
      '#' :: (['{', 'o', 'n', ':'] ++ name ++ ['}'] ++ t) := rfl
  have hread : foregroundToken.read (writeToken backgroundOpening name ++ t) = none :=
    readToken_opening_writeToken_background name t
  rw [hsplit] at hread ⊢
  rw [foregroundToken.occurrences_cons_of_read_eq_none hread,
    isOpenedBy_foregroundToken.beginsWith.occurrences_append hhash]

/-- The second pass finds the tokens that stood in the text before the first. -/
theorem occurrences_substitute_background (s : List Char) :
    foregroundToken.occurrences (backgroundToken.substitute resolveBackground s) =
      foregroundToken.occurrences s := by
  have hitems (t : List Char) : (foregroundToken.scan t).flatMap (fun x => x.getRight?.toList) =
      foregroundToken.occurrences t := (List.filterMap_eq_flatMap_toList _ _).symm
  rw [← hitems, ← hitems]
  apply isDelimited_foregroundToken.flatMap_scan_substitute isOpenedBy_foregroundToken
    isOpenedBy_backgroundToken.beginsWith
  · intro t name rest hread
    exact exists_resolveBackground_eq_cons (token_read_eq_some_iff.1 hread).1
  · intro t name rest hread
    have hname : IsName name := (token_read_eq_some_iff.1 hread).1
    refine ⟨[], ?_⟩
    intro after
    rw [hitems, hitems, hitems, List.nil_append]
    refine ⟨?_, occurrences_writeToken_background hname after⟩
    by_cases hcolor : ∃ color : Color, name = color.name
    · rcases hcolor with ⟨color, rfl⟩
      rw [resolveBackground_name,
        isOpenedBy_foregroundToken.beginsWith.occurrences_append (Attribute.hash_not_mem_code _)]
    · rw [resolveBackground_eq_writeToken (not_exists.1 hcolor),
        occurrences_writeToken_background hname]

/-! ## Both passes are one substitution -/

/-- A token of an attribute goes through both passes as its code. -/
theorem substituteCodes_token_append (a : Attribute) (rest : List Char) :
    substituteCodes (a.token ++ rest) = a.code ++ substituteCodes rest := by
  have hforeground : ∀ name, IsName name →
      substituteCodes (writeToken opening name ++ rest) =
        resolveForeground name ++ substituteCodes rest := by
    intro name hname
    have hread : ∀ t, foregroundToken.read (writeToken opening name ++ t) = some (name, t) :=
      fun t => token_read_eq_some_iff.2 ⟨hname, rfl⟩
    rw [substituteCodes, substituteCodes, substitute_background_writeToken_opening _ hname,
      foregroundToken.substitute_of_read (hread _)]
  cases a with
  | foreground c =>
      have hname : IsName c.name := isName_name (.foreground c)
      rw [Attribute.token, hforeground c.name hname, resolveForeground_color_name]
  | background c =>
      have hread : backgroundToken.read ((Attribute.background c).token ++ rest) =
          some (c.name, rest) :=
        token_read_eq_some_iff.2 ⟨isName_name (.background c), rfl⟩
      rw [substituteCodes, substituteCodes, backgroundToken.substitute_of_read hread,
        resolveBackground_name,
        isOpenedBy_foregroundToken.beginsWith.substitute_append _ (Attribute.hash_not_mem_code _)]
  | effect e =>
      have hname : IsName e.name := isName_name (.effect e)
      rw [Attribute.token, hforeground e.name hname, resolveForeground_effect_name]

theorem substituteCodes_eq_substituteKnown (s : List Char) :
    substituteCodes s = substituteKnown s := by
  induction s using Lexeme.scan_induction knownToken with
  | nil => simp [substituteCodes, substituteKnown]
  | read c s a rest hread ih =>
      rw [substituteKnown, knownToken.substitute_of_read hread, knownToken.eq_of_read hread]
      exact (substituteCodes_token_append a rest).trans (congrArg (a.code ++ ·) ih)
  | char c s hread ih =>
      have hunknown : ∀ (a : Attribute) (rest : List Char), c :: s ≠ a.token ++ rest := by
        intro a rest hs
        rw [knownToken_read_eq_some_iff.2 hs] at hread
        cases hread
      have hfirst : backgroundToken.substitute resolveBackground (c :: s) =
          c :: backgroundToken.substitute resolveBackground s := by
        apply isOpenedBy_backgroundToken.substitute_cons_of_kept
        intro name rest hname
        apply resolveBackground_eq_writeToken
        rintro color rfl
        exact hunknown (.background color) rest (backgroundToken.eq_of_read hname)
      have hsecond : foregroundToken.substitute resolveForeground
          (c :: backgroundToken.substitute resolveBackground s) =
            c :: foregroundToken.substitute resolveForeground
              (backgroundToken.substitute resolveBackground s) := by
        apply isOpenedBy_foregroundToken.substitute_cons_of_kept
        intro name rest hname
        rcases exists_read_of_read_substitute_background hname with ⟨rest', hrest'⟩
        have hs := foregroundToken.eq_of_read hrest'
        apply resolveForeground_eq_writeToken
        · rintro color rfl
          exact hunknown (.foreground color) rest' hs
        · rintro e rfl
          exact hunknown (.effect e) rest' hs
      rw [substituteKnown, knownToken.substitute_cons_of_read_eq_none hread, substituteCodes,
        hfirst, hsecond]
      exact congrArg (c :: ·) ih

theorem resolve_eq_mergeFirstRun (s : List Char) :
    resolve s = Control.mergeFirstRun (substituteKnown s) := by
  rw [resolve, substituteCodes_eq_substituteKnown]

/-- Resolving is one substitution of the attributes' tokens in the text as it stands, and the merge
of the first run. The substitution replaces every occurrence of a token and keeps all other text;
occurrences never overlap; and the pass for background tokens leaves exactly the foreground tokens
that stood in the text. -/
theorem resolve_eq_mergeFirstRun_substituteKnown :
    (∀ s, resolve s = Control.mergeFirstRun (substituteKnown s)) ∧
    (∀ before after (a : Attribute), substituteKnown (before ++ a.token ++ after) =
      substituteKnown before ++ a.code ++ substituteKnown after) ∧
    (∀ s, (∀ a : Attribute, ¬ a.token <:+: s) → substituteKnown s = s) ∧
    (∀ before before' after after' (a b : Attribute),
      before ++ a.token ++ after = before' ++ b.token ++ after' →
        before.length ≤ before'.length →
          (before = before' ∧ a = b) ∨ before.length + a.token.length ≤ before'.length) ∧
    ∀ s, foregroundToken.occurrences (backgroundToken.substitute resolveBackground s) =
      foregroundToken.occurrences s := by
  refine ⟨?merged, substituteKnown_append, fun s => substituteKnown_eq_self, ?apart,
    occurrences_substitute_background⟩
  case merged =>
    intro s
    rw [resolve, substituteCodes_eq_substituteKnown]
  case apart =>
    intro before before' after after' a b h hle
    exact length_add_le_of_token_append h hle

end

/-- The token inside the remains of another is replaced, the remains are kept, and a token further
on lies behind both. -/
theorem substituteKnown_nested :
    substituteKnown (['#', '{'] ++ (Attribute.background .red).token ++ "bold".toList) =
      ['#', '{'] ++ (Attribute.background .red).code ++ "bold".toList ∧
    ((['#', '{'] = ['#', '{'] ++ (Attribute.background .red).token ++ "bold".toList ∧
        Attribute.background .red = .effect .up) ∨
      ['#', '{'].length + (Attribute.background .red).token.length ≤
        (['#', '{'] ++ (Attribute.background .red).token ++ "bold".toList).length) := by
  have hresolve := resolve_eq_mergeFirstRun_substituteKnown
  have hremains : ∀ s ∈ [['#', '{'], "bold".toList], substituteKnown s = s := by
    intro s hs
    apply hresolve.2.2.1
    have hall : ∀ s ∈ [['#', '{'], "bold".toList], ∀ a ∈ Attribute.all, ¬ a.token <:+: s := by
      decide
    intro a
    exact hall s hs a a.mem_all
  constructor
  · rw [hresolve.2.1, hremains _ (by simp), hremains _ (by simp)]
  · exact hresolve.2.2.2.1 _ _ ("bold".toList ++ (Attribute.effect .up).token) [] _ _ (by decide)
      (by decide)

end Markup

end TerminalDecoration
