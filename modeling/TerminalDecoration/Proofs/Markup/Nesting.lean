/-
# Nested tokens

Deleting a token puts together what stood before and behind it, and so does leaving a rewound line
out. A token may come up that way: what is left of `#{#{red}blue}` is a token again. For that the
front of a token has to stand directly before a token. A text without such a place keeps that
property under every deletion, and it is left without any token.
-/

import Mathlib.Data.List.Infix
import TerminalDecoration.Proofs.Markup.Line
import TerminalDecoration.Proofs.Markup.Token
import TerminalDecoration.Markup.Plain
import TerminalDecoration.Text.Word

namespace TerminalDecoration.Markup

section

variable [Text.WordClass]

/-! ## Tokens in a text -/

/-- The text of a token of either form. -/
def IsToken (t : List Char) : Prop :=
  ∃ start ∈ [opening, backgroundOpening], ∃ name, IsName name ∧ t = writeToken start name

/-- A token is a hash and a brace around characters that are neither, nor a newline. -/
theorem IsToken.exists_body {t : List Char} (ht : IsToken t) :
    ∃ body, t = '#' :: (body ++ ['}']) ∧ '#' ∉ body ∧ '}' ∉ body ∧ '\n' ∉ body := by
  obtain ⟨start, hstart, name, hname, rfl⟩ := ht
  have hopening : ∃ tail, start = '#' :: tail ∧ '#' ∉ tail ∧ '}' ∉ tail ∧ '\n' ∉ tail := by
    rcases List.mem_pair.1 hstart with rfl | rfl
    · exact ⟨['{'], rfl, by decide⟩
    · exact ⟨['{', 'o', 'n', ':'], rfl, by decide⟩
  obtain ⟨tail, rfl, hhash, hbrace, hnewline⟩ := hopening
  refine ⟨tail ++ name, by simp [writeToken], ?_⟩
  simp only [List.mem_append, not_or]
  have hfree {c : Char} (hc : c ∈ ['#', '{', '}', ':', '[', '\x1b', '\n']) : c ∉ name :=
    hname.not_mem (Text.WordClass.isWord_eq_false hc)
  exact ⟨⟨hhash, hfree (by decide)⟩, ⟨hbrace, hfree (by decide)⟩, ⟨hnewline, hfree (by decide)⟩⟩

theorem IsToken.newline_not_mem {t : List Char} (ht : IsToken t) : '\n' ∉ t := by
  obtain ⟨body, rfl, -, -, hnewline⟩ := ht.exists_body
  simp [hnewline]

/-- No token is the beginning of another. -/
theorem IsToken.eq_of_prefix {t t' : List Char} (ht : IsToken t) (ht' : IsToken t')
    (h : t <+: t') : t = t' := by
  obtain ⟨body, rfl, -⟩ := ht.exists_body
  obtain ⟨body', rfl, -, hbrace, -⟩ := ht'.exists_body
  rw [List.cons_prefix_cons] at h
  rcases List.prefix_concat_iff.1 h.2 with heq | h
  · rw [heq]
  · exact absurd (h.mem (by simp)) hbrace

theorem occurrences_token_eq_nil_iff {start s : List Char} :
    (token start).occurrences s = [] ↔
      ∀ name, IsName name → ¬ writeToken start name <:+: s := by
  rw [Text.Lexeme.occurrences_eq_nil_iff]
  constructor
  · intro h name hname hstands
    obtain ⟨v, ⟨rest, rfl⟩, hsuffix⟩ := List.infix_iff_prefix_suffix.1 hstands
    have hread : (token start).read (writeToken start name ++ rest) = some (name, rest) :=
      token_read_eq_some_iff.2 ⟨hname, rfl⟩
    rw [h _ hsuffix] at hread
    cases hread
  · intro h v hsuffix
    cases hread : (token start).read v with
    | none => rfl
    | some found =>
        obtain ⟨name, rest⟩ := found
        obtain ⟨hname, rfl⟩ := token_read_eq_some_iff.1 hread
        exact absurd ((List.prefix_append _ rest).isInfix.trans hsuffix.isInfix) (h name hname)

/-- A text has no token exactly if none stands at any place of it. -/
theorem hasToken_eq_false_iff {s : List Char} :
    hasToken s = false ↔ ∀ t, IsToken t → ¬ t <:+: s := by
  rw [hasToken, Bool.or_eq_false_iff, Bool.not_eq_false', Bool.not_eq_false', List.isEmpty_iff,
    List.isEmpty_iff, foregroundToken, backgroundToken, occurrences_token_eq_nil_iff,
    occurrences_token_eq_nil_iff]
  constructor
  · rintro ⟨hfront, hback⟩ t ⟨start, hstart, name, hname, rfl⟩
    rcases List.mem_pair.1 hstart with rfl | rfl
    · exact hfront name hname
    · exact hback name hname
  · intro h
    exact ⟨fun name hname => h _ ⟨opening, by simp, name, hname, rfl⟩,
      fun name hname => h _ ⟨backgroundOpening, by simp, name, hname, rfl⟩⟩

/-! ## Fronts of tokens -/

/-- The beginning of a token, but not all of it. -/
def IsFront (x : List Char) : Prop := x ≠ [] ∧ ∃ t, IsToken t ∧ x <+: t ∧ x ≠ t

theorem IsFront.of_prefix {x y : List Char} (hy : IsFront y) (hx : x ≠ []) (hxy : x <+: y) :
    IsFront x := by
  obtain ⟨-, t, ht, hyt, hne⟩ := hy
  refine ⟨hx, t, ht, hxy.trans hyt, ?_⟩
  rintro rfl
  exact hne (hyt.eq_of_length_le hxy.length_le)

theorem IsFront.newline_not_mem {x : List Char} (hx : IsFront x) : '\n' ∉ x := by
  obtain ⟨-, t, ht, hfront, -⟩ := hx
  exact fun hmem => ht.newline_not_mem (hfront.mem hmem)

/-- No front of a token stands at the end of the text. -/
def IsClosed (u : List Char) : Prop := ∀ x, x <:+ u → ¬ IsFront x

theorem IsClosed.of_suffix {u v : List Char} (hv : IsClosed v) (huv : u <:+ v) : IsClosed u :=
  fun x hx => hv x (hx.trans huv)

theorem IsClosed.append {u v : List Char} (hu : IsClosed u) (hv : IsClosed v) :
    IsClosed (u ++ v) := by
  intro x hx hfront
  rcases List.suffix_or_suffix_of_suffix hx (List.suffix_append u v) with h | ⟨z, rfl⟩
  · exact hv x h hfront
  · obtain ⟨a, ha⟩ := hx
    rw [← List.append_assoc, List.append_cancel_right_eq] at ha
    cases z with
    | nil => exact hv v List.suffix_rfl hfront
    | cons c z =>
        have hleft := hfront.of_prefix (List.cons_ne_nil c z) (List.prefix_append (c :: z) v)
        exact hu (c :: z) ⟨a, ha⟩ hleft

theorem isClosed_concat_newline (line : List Char) : IsClosed (line ++ ['\n']) := by
  intro x hx hfront
  rcases List.suffix_concat_iff.1 hx with rfl | ⟨z, rfl, -⟩
  · exact hfront.1 rfl
  · exact hfront.newline_not_mem (by simp)

/-- A token that begins in a closed text ends there. -/
theorem IsClosed.prefix_of_prefix_append {u w t : List Char} (hu : IsClosed u) (hne : u ≠ [])
    (ht : IsToken t) (h : t <+: u ++ w) : t <+: u := by
  rcases List.prefix_or_prefix_of_prefix h (List.prefix_append u w) with h | h
  · exact h
  · by_cases heq : u = t
    · exact heq ▸ List.prefix_rfl
    · exact absurd ⟨hne, t, ht, h, heq⟩ (hu u List.suffix_rfl)

/-! ## Unnested texts -/

/-- No token of the text stands directly behind the front of another. -/
def IsUnnested (s : List Char) : Prop :=
  ∀ u t v, s = u ++ (t ++ v) → IsToken t → IsClosed u

theorem IsUnnested.of_append_left {u v : List Char} (h : IsUnnested (u ++ v)) :
    IsUnnested u := by
  rintro a t b rfl ht
  exact h a t (b ++ v) (by simp) ht

theorem IsUnnested.of_append_right {u v : List Char} (h : IsUnnested (u ++ v)) :
    IsUnnested v := by
  rintro a t b rfl ht
  have hclosed : IsClosed (u ++ a) := h (u ++ a) t b (by simp) ht
  exact hclosed.of_suffix (List.suffix_append u a)

/-- Whatever is put behind a closed text, no token comes up over the seam. -/
theorem IsUnnested.append {u w : List Char} (hu : IsUnnested u) (hclosed : IsClosed u)
    (hw : IsUnnested w) : IsUnnested (u ++ w) := by
  intro a t b heq ht
  rcases List.append_eq_append_iff.1 heq with ⟨a', rfl, hbehind⟩ | ⟨z, rfl, hseam⟩
  · exact hclosed.append (hw a' t b hbehind ht)
  · -- The token begins before the seam, so it ends there, unless it begins right behind it.
    by_cases hz : z = []
    · rw [hz, List.append_nil] at hclosed
      exact hclosed
    · have hfront : t <+: z := (hclosed.of_suffix (List.suffix_append a z)).prefix_of_prefix_append
        hz ht ⟨b, hseam⟩
      obtain ⟨rest, rfl⟩ := hfront
      exact hu a t rest rfl ht

/-- Where a token can be read, one stands. -/
theorem exists_isToken_of_isSome_read {start v : List Char}
    (hstart : start ∈ [opening, backgroundOpening]) (h : ((token start).read v).isSome) :
    ∃ t, IsToken t ∧ t <+: v := by
  obtain ⟨⟨name, rest⟩, hread⟩ := Option.isSome_iff_exists.1 h
  obtain ⟨hname, rfl⟩ := token_read_eq_some_iff.1 hread
  exact ⟨writeToken start name, ⟨start, hstart, name, hname, rfl⟩, List.prefix_append _ rest⟩

/-- A text in which every hash opens a token is unnested. At the hash of a front a token can be
read. It is no shorter than the front, because no token begins another, and it is no longer, because
the hash behind the front would stand inside it. -/
theorem isUnnested_of_hash_opens {s : List Char}
    (h : ∀ v ∈ s.tails, v.head? = some '#' →
      (foregroundToken.read v).isSome ∨ (backgroundToken.read v).isSome) : IsUnnested s := by
  rintro u t v rfl ht x ⟨z, rfl⟩ ⟨hx, whole, hwhole, hfront, hne⟩
  obtain ⟨c, x, rfl⟩ := List.exists_cons_of_ne_nil hx
  have hhash : c = '#' := by
    obtain ⟨body, rfl, -⟩ := hwhole.exists_body
    exact (List.cons_prefix_cons.1 hfront).1
  subst hhash
  have hopens : ∃ found, IsToken found ∧ found <+: '#' :: x ++ (t ++ v) := by
    rcases h ('#' :: x ++ (t ++ v)) (by simp [List.mem_tails]) rfl with h | h
    · exact exists_isToken_of_isSome_read (by simp) h
    · exact exists_isToken_of_isSome_read (by simp) h
  obtain ⟨found, hfound, hread⟩ := hopens
  rcases List.prefix_or_prefix_of_prefix hread (List.prefix_append ('#' :: x) (t ++ v)) with
    hshort | ⟨y, rfl⟩
  · have heq := hfound.eq_of_prefix hwhole (hshort.trans hfront)
    subst heq
    exact hne (hfront.eq_of_length_le hshort.length_le)
  · cases y with
    | nil =>
        rw [List.append_nil] at hfound
        exact hne (hfound.eq_of_prefix hwhole hfront)
    | cons d y =>
        obtain ⟨body, rfl, -⟩ := ht.exists_body
        rw [List.prefix_append_right_inj, List.cons_append, List.cons_prefix_cons] at hread
        obtain ⟨inner, hinner, hhash, -⟩ := hfound.exists_body
        rw [hread.1, List.cons_append, List.cons.injEq] at hinner
        have hmem : '#' ∈ inner ++ ['}'] := hinner.2 ▸ by simp
        simp [hhash] at hmem

/-! ## Deleting tokens -/

/-- The text with the tokens of this opening deleted. -/
def deleteTokensOf (start s : List Char) : List Char := (token start).substitute (fun _ => []) s

section Deleting

variable {start : List Char} (hstart : start ∈ [opening, backgroundOpening])
include hstart

/-- A text stays unnested. The part before is closed wherever a token is deleted. -/
theorem IsUnnested.append_deleteTokensOf {u s : List Char} (h : IsUnnested (u ++ s)) :
    IsUnnested (u ++ deleteTokensOf start s) := by
  induction s using Text.Lexeme.scan_induction (token start) generalizing u with
  | nil => simpa [deleteTokensOf] using h
  | read c s name rest hread ih =>
      obtain ⟨hname, hs⟩ := token_read_eq_some_iff.1 hread
      rw [hs] at h
      have hclosed : IsClosed u := h u _ rest rfl ⟨start, hstart, name, hname, rfl⟩
      rw [deleteTokensOf, (token start).substitute_of_read hread, List.nil_append]
      exact h.of_append_left.append hclosed (ih (u := []) h.of_append_right.of_append_right)
  | char c s hread ih =>
      rw [deleteTokensOf, (token start).substitute_cons_of_read_eq_none hread,
        List.append_cons]
      rw [List.append_cons] at h
      exact ih h

/-- A token that begins in the part before stood there already. -/
theorem IsUnnested.prefix_of_prefix_append_deleteTokensOf {u s t : List Char}
    (h : IsUnnested (u ++ s)) (hu : u ≠ []) (ht : IsToken t)
    (hfront : t <+: u ++ deleteTokensOf start s) : t <+: u ++ s := by
  induction s using Text.Lexeme.scan_induction (token start) generalizing u with
  | nil => simpa [deleteTokensOf] using hfront
  | read c s name rest hread ih =>
      obtain ⟨hname, hs⟩ := token_read_eq_some_iff.1 hread
      rw [hs] at h
      have hclosed : IsClosed u := h u _ rest rfl ⟨start, hstart, name, hname, rfl⟩
      exact (hclosed.prefix_of_prefix_append hu ht hfront).trans (List.prefix_append u _)
  | char c s hread ih =>
      rw [deleteTokensOf, (token start).substitute_cons_of_read_eq_none hread,
        List.append_cons] at hfront
      rw [List.append_cons] at h ⊢
      exact ih h (by simp) hfront

/-- What tokens are left in an unnested text stood there before, and are of another form. -/
theorem IsUnnested.infix_of_infix_deleteTokensOf {s t : List Char} (h : IsUnnested s)
    (ht : IsToken t) (hleft : t <:+: deleteTokensOf start s) :
    t <:+: s ∧ ∀ name, IsName name → t ≠ writeToken start name := by
  induction s using Text.Lexeme.scan_induction (token start) with
  | nil =>
      obtain ⟨body, rfl, -⟩ := ht.exists_body
      simp [deleteTokensOf] at hleft
  | read c s name rest hread ih =>
      rw [deleteTokensOf, (token start).substitute_of_read hread, List.nil_append] at hleft
      have hs := (token_read_eq_some_iff.1 hread).2
      rw [hs] at h ⊢
      obtain ⟨hstands, hother⟩ := ih h.of_append_right hleft
      exact ⟨hstands.trans (List.suffix_append _ rest).isInfix, hother⟩
  | char c s hread ih =>
      rw [deleteTokensOf, (token start).substitute_cons_of_read_eq_none hread,
        List.infix_cons_iff] at hleft
      rcases hleft with hfront | hleft
      · have hbefore : t <+: c :: s :=
          h.prefix_of_prefix_append_deleteTokensOf hstart (u := [c]) (by simp) ht hfront
        refine ⟨hbefore.isInfix, ?_⟩
        rintro name hname rfl
        obtain ⟨rest, hrest⟩ := hbefore
        have hsome := token_read_eq_some_iff.2 ⟨hname, hrest.symm⟩
        rw [hread] at hsome
        cases hsome
      · obtain ⟨hstands, hother⟩ := ih (h.of_append_right (u := [c])) hleft
        exact ⟨hstands.trans (List.suffix_cons c s).isInfix, hother⟩

end Deleting

/-- Nothing is left over of the tokens of an unnested text. -/
theorem IsUnnested.hasToken_deleteTokens {s : List Char} (h : IsUnnested s) :
    hasToken (deleteTokens s) = false := by
  rw [hasToken_eq_false_iff]
  intro t ht hleft
  have hmiddle : IsUnnested (deleteTokensOf backgroundOpening s) :=
    h.append_deleteTokensOf (by simp) (u := [])
  have hopening : opening ∈ [opening, backgroundOpening] := List.mem_cons_self
  obtain ⟨hbetween, hfront⟩ := hmiddle.infix_of_infix_deleteTokensOf hopening ht hleft
  obtain ⟨-, hback⟩ := h.infix_of_infix_deleteTokensOf (by simp) ht hbetween
  obtain ⟨start, hstart, name, hname, rfl⟩ := ht
  rcases List.mem_pair.1 hstart with rfl | rfl
  · exact hfront name hname rfl
  · exact hback name hname rfl

/-! ## Rewound lines -/

theorem isToken_rewindText : IsToken rewindText := by
  have hletters : Effect.up.name.all Char.isAlphanum = true := by decide
  have hword : ∀ c ∈ Effect.up.name, Text.isWord c = true := fun c hc =>
    Text.WordClass.isWord_of_isAlphanum (List.all_eq_true.1 hletters c hc)
  exact ⟨opening, by simp, Effect.up.name, ⟨by decide, hword⟩, rfl⟩

/-- Leaving rewound lines out keeps a text unnested: a line is cut before a token or behind its
newline, where it is closed. -/
theorem isUnnested_dropRewoundFrom {lines : Nat} {exhausted : Bool} {s : List Char}
    (h : IsUnnested s) : IsUnnested (dropRewoundFrom lines exhausted s) := by
  fun_induction dropRewoundFrom lines exhausted s with
  | case1 => exact h
  | case2 exhausted s line after hline _ ih | case4 exhausted s line after hline _ _ _ ih =>
      rw [eq_of_breakLine? hline, List.append_cons] at h
      rw [List.append_cons]
      exact h.of_append_left.append (isClosed_concat_newline line) (ih h.of_append_right)
  | case3 exhausted s line after hline start hstart rest hrest ih =>
      obtain ⟨behind, rfl⟩ := eq_append_of_rewound hstart
      obtain ⟨skipped, rfl⟩ := suffix_of_afterLines? hrest
      have hs : s = start ++ (rewindText ++ (behind ++ '\n' :: skipped ++ rest)) := by
        rw [eq_of_breakLine? hline]
        simp
      rw [hs] at h
      have hclosed : IsClosed start := h start rewindText _ rfl isToken_rewindText
      have hrest : IsUnnested rest := h.of_append_right.of_append_right.of_append_right
      exact h.of_append_left.append hclosed (ih hrest)

/-! ## Texts without tokens -/

/-- A text without a rewind only loses its tokens. -/
theorem plain_eq_deleteTokens {s : List Char} (h : ¬ rewindText <:+: s) :
    plain s = deleteTokens s := by
  rw [plain, dropRewound, dropRewoundFrom_of_not_infix h]

/-- A text without tokens is left alone. -/
theorem plain_eq_self_of_hasToken_eq_false {s : List Char} (h : hasToken s = false) :
    plain s = s := by
  have hnone := hasToken_eq_false_iff.1 h
  have hrewind : ¬ rewindText <:+: s := hnone rewindText isToken_rewindText
  rw [plain_eq_deleteTokens hrewind, deleteTokens,
    backgroundToken.substitute_eq_self_of_occurrences_eq_nil,
    foregroundToken.substitute_eq_self_of_occurrences_eq_nil]
  · exact occurrences_token_eq_nil_iff.2 fun name hname =>
      hnone _ ⟨opening, by simp, name, hname, rfl⟩
  · exact occurrences_token_eq_nil_iff.2 fun name hname =>
      hnone _ ⟨backgroundOpening, by simp, name, hname, rfl⟩

/-- No token is left over of a text in which none stands directly behind the front of another, and
so nothing is left to remove. -/
theorem hasToken_plain_of_isUnnested {s : List Char} (h : IsUnnested s) :
    hasToken (plain s) = false ∧ plain (plain s) = plain s := by
  have hnone : hasToken (plain s) = false := (isUnnested_dropRewoundFrom h).hasToken_deleteTokens
  exact ⟨hnone, plain_eq_self_of_hasToken_eq_false hnone⟩

end

theorem hasToken_plain_flat :
    IsUnnested "#{bold}#{on:red}ab#{up}\nc#{no}\nd".toList ∧
      hasToken (plain "#{bold}#{on:red}ab#{up}\nc#{no}\nd".toList) = false ∧
      plain (plain "#{bold}#{on:red}ab#{up}\nc#{no}\nd".toList) =
        plain "#{bold}#{on:red}ab#{up}\nc#{no}\nd".toList := by
  have h : IsUnnested "#{bold}#{on:red}ab#{up}\nc#{no}\nd".toList :=
    isUnnested_of_hash_opens (by decide +kernel)
  exact ⟨h, hasToken_plain_of_isUnnested h⟩

/-- A token nested in another brings the two halves of the outer one together. -/
theorem hasToken_plain_nested :
    plain "#{#{red}blue}".toList = "#{blue}".toList ∧
      hasToken (plain "#{#{red}blue}".toList) = true ∧
      plain (plain "#{#{red}blue}".toList) ≠ plain "#{#{red}blue}".toList := by
  decide +kernel

end TerminalDecoration.Markup
