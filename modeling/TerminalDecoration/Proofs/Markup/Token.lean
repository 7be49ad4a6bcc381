/-
# Reading tokens

Reading a token off the front of a text succeeds exactly on the written forms of names, so a token
is delimited: what stands behind it has no part in reading it. A token has its `#` only at the
front, because no word character is a `#`.
-/

import TerminalDecoration.Proofs.Text.Scan
import TerminalDecoration.Markup.Token

namespace TerminalDecoration.Markup

open Text (Lexeme WordClass isWord)

variable [WordClass]

/-- A name is one word of at least one character. -/
def IsName (name : List Char) : Prop := name ≠ [] ∧ ∀ c ∈ name, isWord c = true

/-- A character that is no word character stands in no name. -/
theorem IsName.not_mem {name : List Char} (hname : IsName name) {c : Char}
    (hc : isWord c = false) : c ∉ name := by
  intro hmem
  have hword := hname.2 c hmem
  rw [hc] at hword
  cases hword

/-- A token can be read exactly where one is written. -/
theorem readToken_eq_some_iff {start s name rest : List Char} :
    readToken start s = some (name, rest) ↔ IsName name ∧ s = writeToken start name ++ rest := by
  constructor
  · intro hread
    refine ⟨?_, eq_writeToken_of_readToken hread⟩
    unfold readToken at hread
    split at hread
    · cases hread
    · rename_i body _
      split at hread
      · rename_i c word rest' htake hdrop
        cases hread
        refine ⟨List.cons_ne_nil c word, fun d hd => ?_⟩
        have hall := List.all_takeWhile (p := isWord) (l := body)
        rw [htake] at hall
        exact List.all_eq_true.1 hall d hd
      · cases hread
  · rintro ⟨⟨hne, hword⟩, rfl⟩
    obtain ⟨c, name, rfl⟩ := List.exists_cons_of_ne_nil hne
    have hstart : Text.after? start (writeToken start (c :: name) ++ rest) =
        some ((c :: name) ++ '}' :: rest) :=
      Text.after?_eq_some_iff.2 (by simp [writeToken])
    have hbrace : isWord '}' = false := WordClass.isWord_eq_false (by simp)
    simp only [readToken, hstart, List.takeWhile_append_of_pos hword,
      List.dropWhile_append_of_pos hword, List.takeWhile_cons, List.dropWhile_cons, hbrace,
      List.append_nil, Bool.false_eq_true, if_false]

theorem token_read_eq_some_iff {start s name rest : List Char} :
    (token start).read s = some (name, rest) ↔
      IsName name ∧ s = writeToken start name ++ rest :=
  readToken_eq_some_iff

theorem isDelimited_token (start : List Char) : (token start).IsDelimited := by
  intro s name rest hread after
  exact token_read_eq_some_iff.2 ⟨(token_read_eq_some_iff.1 hread).1, rfl⟩

/-- A token is opened by the first character of its opening, if that is no word character and
stands in the opening only once. -/
theorem isOpenedBy_token {c : Char} {start : List Char} (hword : isWord c = false)
    (hbrace : c ≠ '}') (hstart : c ∉ start) : (token (c :: start)).IsOpenedBy c := by
  intro s name rest hread
  have hname := (token_read_eq_some_iff.1 hread).1
  refine ⟨start ++ name ++ ['}'], rfl, ?_⟩
  simp only [List.mem_append, List.mem_singleton, not_or]
  exact ⟨⟨hstart, hname.not_mem hword⟩, hbrace⟩

theorem isOpenedBy_foregroundToken : foregroundToken.IsOpenedBy '#' :=
  isOpenedBy_token (WordClass.isWord_eq_false (by simp)) (by decide) (by decide)

theorem isDelimited_foregroundToken : foregroundToken.IsDelimited :=
  isDelimited_token opening

theorem isOpenedBy_backgroundToken : backgroundToken.IsOpenedBy '#' :=
  isOpenedBy_token (WordClass.isWord_eq_false (by simp)) (by decide) (by decide)

theorem isDelimited_backgroundToken : backgroundToken.IsDelimited :=
  isDelimited_token backgroundOpening

/-! ## Both forms in one text -/

/-- A name holds no colon, and so does not reach behind the opening of a background token. -/
theorem not_isName_of_append_eq {name rest rest' : List Char}
    (h : name ++ '}' :: rest = 'o' :: 'n' :: ':' :: rest') : ¬ IsName name := by
  intro hname
  have hcolon : ':' ∉ name := hname.not_mem (WordClass.isWord_eq_false (by simp))
  match name with
  | [] | [_] | [_, _] => simp at h
  | _ :: _ :: c :: name =>
      simp only [List.cons_append, List.cons.injEq] at h
      rw [h.2.2.1] at hcolon
      simp at hcolon

/-- No foreground token stands where a background token does. -/
theorem readToken_opening_writeToken_background (name rest : List Char) :
    readToken opening (writeToken backgroundOpening name ++ rest) = none := by
  cases hread : readToken opening (writeToken backgroundOpening name ++ rest) with
  | none => rfl
  | some found =>
      obtain ⟨hname, hwritten⟩ := readToken_eq_some_iff.1 hread
      simp only [writeToken, opening, backgroundOpening, List.cons_append, List.nil_append,
        List.append_assoc, List.cons.injEq, true_and] at hwritten
      exact absurd hname (not_isName_of_append_eq hwritten.symm)

/-- No background token stands where a foreground token does. -/
theorem backgroundToken_read_writeToken_opening {name : List Char} (hname : IsName name)
    (rest : List Char) : backgroundToken.read (writeToken opening name ++ rest) = none := by
  cases hread : backgroundToken.read (writeToken opening name ++ rest) with
  | none => rfl
  | some found =>
      obtain ⟨behind, rest'⟩ := found
      have hnone := readToken_opening_writeToken_background behind rest'
      have hsome : readToken opening (writeToken opening name ++ rest) = some (name, rest) :=
        readToken_eq_some_iff.2 ⟨hname, rfl⟩
      rw [(token_read_eq_some_iff.1 hread).2, hnone] at hsome
      cases hsome

/-- A pass over the background tokens copies a foreground token. -/
theorem substitute_background_writeToken_opening (f : List Char → List Char) {name : List Char}
    (hname : IsName name) (rest : List Char) :
    backgroundToken.substitute f (writeToken opening name ++ rest) =
      writeToken opening name ++ backgroundToken.substitute f rest := by
  obtain ⟨tail, hwrite, htail⟩ := isOpenedBy_foregroundToken
    (token_read_eq_some_iff.2 ⟨hname, rfl⟩ : foregroundToken.read _ = some (name, rest))
  have hcons : writeToken opening name = '#' :: tail := hwrite
  have hnone := backgroundToken_read_writeToken_opening hname rest
  rw [hcons, List.cons_append] at hnone ⊢
  rw [backgroundToken.substitute_cons_of_read_eq_none hnone,
    isOpenedBy_backgroundToken.beginsWith.substitute_append _ htail, List.cons_append]

end TerminalDecoration.Markup
