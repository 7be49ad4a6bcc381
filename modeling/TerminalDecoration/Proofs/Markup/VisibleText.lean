/-
# The same text with and without decoration

A decorating terminal gets codes where a plain sink gets nothing, so the two show the same text.
That needs a condition. Unknown tokens are kept in one case and deleted in the other; a rewind takes
lines away from a plain sink; and a hash before a token may come to stand before what follows it. In
a tidy text none of this happens: whatever looks like the beginning of a token is one, and an
attribute's.
-/

import TerminalDecoration.Console
import TerminalDecoration.Filter
import TerminalDecoration.Proofs.Control.Erasure
import TerminalDecoration.Proofs.Markup.KnownToken
import TerminalDecoration.Proofs.Markup.Nesting

namespace TerminalDecoration.Markup

open Text (Lexeme WordClass)
open Control (escape sequence)

/-! ## Tidy texts -/

/-- Every hash begins the token of an attribute other than the rewind, or is followed by nothing or
by a character that is neither a hash nor a brace. -/
def IsTidy (s : List Char) : Prop :=
  ∀ v, '#' :: v <:+ s →
    (∃ a : Attribute, a ≠ .effect .up ∧ a.token <+: '#' :: v) ∨
      (v.head? ≠ some '#' ∧ v.head? ≠ some '{')

theorem isTidy_iff {s : List Char} :
    IsTidy s ↔ ∀ t ∈ s.tails, t.head? = some '#' →
      (∃ a ∈ Attribute.all, a ≠ .effect .up ∧ a.token <+: t) ∨
        (t.tail.head? ≠ some '#' ∧ t.tail.head? ≠ some '{') := by
  constructor
  · intro h t ht hhash
    obtain ⟨v, rfl⟩ := List.head?_eq_some_iff.1 hhash
    rcases h v ((List.mem_tails _ _).1 ht) with ⟨a, ha, htoken⟩ | hnext
    · exact Or.inl ⟨a, a.mem_all, ha, htoken⟩
    · exact Or.inr hnext
  · intro h v hv
    rcases h ('#' :: v) ((List.mem_tails _ _).2 hv) rfl with ⟨a, -, ha, htoken⟩ | hnext
    · exact Or.inl ⟨a, ha, htoken⟩
    · exact Or.inr hnext

instance (s : List Char) : Decidable (IsTidy s) := decidable_of_iff _ isTidy_iff.symm

theorem IsTidy.of_suffix {s t : List Char} (h : IsTidy s) (ht : t <:+ s) : IsTidy t :=
  fun v hv => h v (hv.trans ht)

theorem exists_token_eq_opening_append (a : Attribute) :
    ∃ tail, a.token = '#' :: '{' :: tail := by
  cases a <;> exact ⟨_, rfl⟩

/-- The tokens of a tidy text are no rewinds. -/
theorem IsTidy.ne_up {s rest : List Char} {a : Attribute} (h : IsTidy s)
    (hs : a.token ++ rest <:+ s) : a ≠ .effect .up := by
  obtain ⟨tail, htail⟩ := exists_token_eq_opening_append a
  have htoken : a.token ++ rest = '#' :: '{' :: (tail ++ rest) := by
    rw [htail]
    rfl
  rw [htoken] at hs
  rcases h _ hs with ⟨b, hb, rest', hfront⟩ | hnext
  · rw [← htoken] at hfront
    rw [← (Attribute.token_append_inj hfront).1]
    exact hb
  · exact absurd rfl hnext.2

theorem IsTidy.not_infix_rewindText {s : List Char} (h : IsTidy s) : ¬ rewindText <:+: s := by
  rintro ⟨before, after, hs⟩
  have hsuffix : (Attribute.effect .up).token ++ after <:+ s := ⟨before, by rw [← hs]; simp; rfl⟩
  exact h.ne_up hsuffix rfl

section

variable [WordClass]

/-! ## The decorated text -/

/-- Without its select sequences, the resolved text is the text without its tokens. -/
theorem IsTidy.erase_resolve {s : List Char} (h : IsTidy s) (hescape : escape ∉ s) :
    sequence.erase (resolve s) = knownToken.erase s := by
  rw [resolve, Control.erase_sequence_mergeFirstRun, substituteCodes_eq_substituteKnown]
  induction s using Lexeme.scan_induction knownToken with
  | nil =>
      rw [substituteKnown, knownToken.substitute_nil, sequence.erase_nil, knownToken.erase_nil]
  | read c s a rest hread ih =>
      have hs := knownToken_read_eq_some_iff.1 hread
      have hhere : a.token ++ rest <:+ c :: s := hs ▸ List.suffix_refl (c :: s)
      have hrest : rest <:+ c :: s := (List.suffix_append a.token rest).trans hhere
      have hup : a ≠ .effect .up := h.ne_up hhere
      rw [substituteKnown, knownToken.substitute_of_read hread, ← substituteKnown,
        (Control.leaves_sequence_code hup).erase_append, List.nil_append,
        knownToken.erase_of_read hread]
      exact ih (h.of_suffix hrest) fun hmem => hescape (hrest.mem hmem)
  | char c s hread ih =>
      rw [List.mem_cons, not_or] at hescape
      have hnone : sequence.read (c :: substituteKnown s) = none :=
        Control.isOpenedBy_sequence.beginsWith.read_cons_eq_none (Ne.symm hescape.1) _
      rw [substituteKnown, knownToken.substitute_cons_of_read_eq_none hread, ← substituteKnown,
        sequence.erase_cons_of_read_eq_none hnone, knownToken.erase_cons_of_read_eq_none hread,
        ih (h.of_suffix (List.suffix_cons c s)) hescape.2]

/-! ## The plain text -/

/-- A token of an attribute is deleted. -/
theorem deleteTokens_token_append (a : Attribute) (rest : List Char) :
    deleteTokens (a.token ++ rest) = deleteTokens rest := by
  have hforeground : ∀ name, IsName name →
      deleteTokens (writeToken opening name ++ rest) = deleteTokens rest := by
    intro name hname
    have hread : ∀ t, foregroundToken.read (writeToken opening name ++ t) = some (name, t) :=
      fun t => token_read_eq_some_iff.2 ⟨hname, rfl⟩
    rw [deleteTokens, substitute_background_writeToken_opening _ hname,
      foregroundToken.substitute_of_read (hread _), List.nil_append, deleteTokens]
  cases a with
  | foreground c => exact hforeground c.name (isName_name (.foreground c))
  | effect e => exact hforeground e.name (isName_name (.effect e))
  | background c =>
      have hread : backgroundToken.read ((Attribute.background c).token ++ rest) =
          some (c.name, rest) :=
        token_read_eq_some_iff.2 ⟨isName_name (.background c), rfl⟩
      rw [deleteTokens, backgroundToken.substitute_of_read hread, List.nil_append, deleteTokens]

/-- No token begins with a hash that no brace follows. -/
theorem token_read_hash_eq_none {more v : List Char} (hv : v.head? ≠ some '{') :
    (token ('#' :: '{' :: more)).read ('#' :: v) = none := by
  cases hread : (token ('#' :: '{' :: more)).read ('#' :: v) with
  | none => rfl
  | some found =>
      have hs := (token_read_eq_some_iff.1 hread).2
      rw [writeToken, List.cons_append, List.cons_append, List.cons_append, List.cons.injEq] at hs
      rw [hs.2] at hv
      exact absurd rfl hv

/-- Before anything but a hash, deleting background tokens keeps the next character. -/
theorem head?_substitute_background {v : List Char} (hv : v.head? ≠ some '#')
    (f : List Char → List Char) : (backgroundToken.substitute f v).head? = v.head? := by
  cases v with
  | nil => rw [backgroundToken.substitute_nil]
  | cons d v =>
      have hd : d ≠ '#' := fun h => hv (congrArg some h)
      have hnone : backgroundToken.read (d :: v) = none :=
        isOpenedBy_backgroundToken.beginsWith.read_cons_eq_none hd v
      rw [backgroundToken.substitute_cons_of_read_eq_none hnone, List.head?_cons, List.head?_cons]

/-- A character of a tidy text at which no token stands is kept. -/
theorem IsTidy.deleteTokens_cons {c : Char} {s : List Char} (h : IsTidy (c :: s))
    (hread : knownToken.read (c :: s) = none) : deleteTokens (c :: s) = c :: deleteTokens s := by
  have hnone : backgroundToken.read (c :: s) = none ∧
      foregroundToken.read (c :: backgroundToken.substitute (fun _ => []) s) = none := by
    by_cases hc : c = '#'
    · subst hc
      rcases h s List.suffix_rfl with ⟨a, -, rest, htoken⟩ | ⟨hhash, hbrace⟩
      · rw [knownToken_read_eq_some_iff.2 htoken.symm] at hread
        cases hread
      · constructor
        · exact token_read_hash_eq_none hbrace
        · apply token_read_hash_eq_none
          rwa [head?_substitute_background hhash]
    · exact ⟨isOpenedBy_backgroundToken.beginsWith.read_cons_eq_none hc _,
        isOpenedBy_foregroundToken.beginsWith.read_cons_eq_none hc _⟩
  rw [deleteTokens, backgroundToken.substitute_cons_of_read_eq_none hnone.1,
    foregroundToken.substitute_cons_of_read_eq_none hnone.2, deleteTokens]

/-- The plain text is the text without its tokens. -/
theorem IsTidy.plain_eq_erase {s : List Char} (h : IsTidy s) : plain s = knownToken.erase s := by
  rw [plain_eq_deleteTokens h.not_infix_rewindText]
  induction s using Lexeme.scan_induction knownToken with
  | nil =>
      rw [deleteTokens, backgroundToken.substitute_nil, foregroundToken.substitute_nil,
        knownToken.erase_nil]
  | read c s a rest hread ih =>
      have hs := knownToken_read_eq_some_iff.1 hread
      have hrest : rest <:+ c :: s := hs ▸ List.suffix_append a.token rest
      rw [knownToken.erase_of_read hread, ← ih (h.of_suffix hrest), hs]
      exact deleteTokens_token_append a rest
  | char c s hread ih =>
      rw [h.deleteTokens_cons hread, knownToken.erase_cons_of_read_eq_none hread,
        ih (h.of_suffix (List.suffix_cons c s))]

end

/-! ## Both agree -/

/-- What decoration adds to a tidy text are select sequences and nothing else: without them the
decorated text is the plain one. So all consoles show the plain text, decorated or not, and so do
filters in both modes that render markup. -/
theorem erase_resolve_eq_plain {s : List Char} (hescape : escape ∉ s) (htidy : IsTidy s) :
    sequence.erase (resolve s) = plain s ∧
      sequence.erase (plain s) = plain s ∧
        (∀ console : Console, sequence.erase (console.render s) = plain s) ∧
          sequence.erase (Filter.Mode.resolve.apply s) = plain s ∧
            sequence.erase (Filter.Mode.plain.apply s) = plain s := by
  have hplain : escape ∉ plain s := by
    rw [htidy.plain_eq_erase]
    exact fun hmem => hescape ((knownToken.erase_sublist s).subset hmem)
  have hresolve : sequence.erase (resolve s) = plain s :=
    (htidy.erase_resolve hescape).trans htidy.plain_eq_erase.symm
  have hself : sequence.erase (plain s) = plain s :=
    (Control.isOpenedBy_sequence.beginsWith.becomes_self hplain).erase_eq
  refine ⟨hresolve, hself, fun console => ?_, hresolve, hself⟩
  rw [Console.render]
  cases console.palette with
  | ansi => exact hresolve
  | plain => exact hself

/-- Tokens side by side, which are merged, hashes that begin no token, and one at the end. -/
theorem erase_resolve_eq_plain_tidy :
    let text := "#{bold}#{on:red}a #1#{reset}b#".toList
    escape ∉ text ∧ IsTidy text ∧ sequence.erase (resolve text) = plain text := by
  intro text
  have hescape : escape ∉ text := by decide +kernel
  have htidy : IsTidy text := by decide +kernel
  exact ⟨hescape, htidy, (erase_resolve_eq_plain hescape htidy).1⟩

end TerminalDecoration.Markup
