/-
# The fault of a refused name

Reading a name looks its words up one after the other: in each part those before the first `_on_`,
then the text between the first two. What follows a second `_on_` is no word. This module lists the
words of a name in this order, without reading any of them, and shows that reading refuses a name
exactly for the first word in the list that its table does not hold.
-/

import TerminalDecoration.Proofs.Style.Grammar

namespace TerminalDecoration.Style

open Text (Lexeme)

/-! ## The words of a name -/

/-- A word of a name, by the place where it stands. -/
inductive Word where
  /-- Before any `_on_`, between underscores. -/
  | front (text : List Char)
  /-- Behind the first `_on_`. -/
  | behind (text : List Char)
  deriving DecidableEq, Repr

namespace Word

/-- In front effects and colors are known, behind only colors. -/
def IsKnown : Word → Prop
  | front text => (∃ e : Effect, text = e.name) ∨ ∃ c : Color, text = c.name
  | behind text => ∃ c : Color, text = c.name

/-- What is wrong with a name if the word is the fault in it. -/
def error (name : List Char) : Word → NameError
  | front text => .unknownAttribute text name
  | behind text => .unknownBackground text name

end Word

/-- The words of a part, which is cut into these texts at each `_on_`. -/
def wordsOfCut : List (List Char) → List Word
  | [] => []
  | words :: colors => (words.splitOn '_').map Word.front ++ (colors.take 1).map Word.behind

/-- These are the words of a name in the order of reading. The name is cut at each `_and_`, and each
of its parts at each `_on_`. -/
def IsReadAs (name : List Char) (words : List Word) : Prop :=
  ∃ cuts : List (List (List Char)),
    Lexeme.IsCut "_and_".toList (cuts.map (List.intercalate "_on_".toList)) ∧
      name = List.intercalate "_and_".toList (cuts.map (List.intercalate "_on_".toList)) ∧
        (∀ cut ∈ cuts, Lexeme.IsCut "_on_".toList cut) ∧ words = cuts.flatMap wordsOfCut

/-- The words of a name are those of the pieces of its pieces. -/
theorem isReadAs_iff {name : List Char} {words : List Word} :
    IsReadAs name words ↔
      words = (partSeparator.pieces name).flatMap fun part =>
        wordsOfCut (backgroundSeparator.pieces part) := by
  have hand : "_and_".toList ≠ [] := by decide
  have hon : "_on_".toList ≠ [] := by decide
  constructor
  · rintro ⟨cuts, hcut, hname, hcuts, rfl⟩
    have hparts : partSeparator.pieces name = cuts.map (List.intercalate "_on_".toList) :=
      (Lexeme.pieces_word_eq_iff hand).2 ⟨hcut, hname⟩
    rw [hparts, List.flatMap_map]
    apply List.flatMap_congr
    intro cut hmem
    have hpieces : backgroundSeparator.pieces (List.intercalate "_on_".toList cut) = cut :=
      (Lexeme.pieces_word_eq_iff hon).2 ⟨hcuts cut hmem, rfl⟩
    rw [hpieces]
  · rintro rfl
    have hjoin : ((partSeparator.pieces name).map backgroundSeparator.pieces).map
        (List.intercalate "_on_".toList) = partSeparator.pieces name := by
      rw [List.map_map]
      exact List.map_id'' (fun part => Lexeme.intercalate_pieces_word hon part) _
    have hname := (Lexeme.pieces_word_eq_iff hand).1 (rfl : partSeparator.pieces name = _)
    refine ⟨(partSeparator.pieces name).map backgroundSeparator.pieces, ?_, ?_, ?_, ?_⟩
    · rw [hjoin]
      exact hname.1
    · rw [hjoin]
      exact hname.2
    · intro cut hmem
      rcases List.mem_map.1 hmem with ⟨part, -, rfl⟩
      exact Lexeme.isCut_pieces_word hon part
    · rw [List.flatMap_map]

/-! ## What a reading refuses -/

/-- The error of a reading, if it failed. -/
def refusal? {ε α : Type} : Except ε α → Option ε
  | .ok _ => none
  | .error e => some e

@[simp]
theorem refusal?_eq_some_iff {ε α : Type} {reading : Except ε α} {e : ε} :
    refusal? reading = some e ↔ reading = .error e := by
  cases reading <;> simp [refusal?]

/-- Reading a list fails with the first of its members that cannot be read. -/
theorem refusal?_mapM {α β ε : Type} (f : α → Except ε β) (xs : List α) :
    refusal? (xs.mapM f) = xs.findSome? fun x => refusal? (f x) := by
  induction xs with
  | nil => rfl
  | cons x xs ih =>
      rw [List.mapM_cons, List.findSome?_cons, ← ih]
      cases hx : f x with
      | error e => rfl
      | ok y => cases xs.mapM f <;> rfl

/-- What is found first in lists put together is found first in the first of them that has it. -/
theorem findSome?_flatMap {α β γ : Type} (f : β → Option γ) (g : α → List β) (xs : List α) :
    (xs.flatMap g).findSome? f = xs.findSome? fun x => (g x).findSome? f := by
  induction xs with
  | nil => rfl
  | cons x xs ih =>
      rw [List.flatMap_cons, List.findSome?_append, ih, List.findSome?_cons]
      cases (g x).findSome? f <;> rfl

namespace Word

/-- The error of looking the word up. -/
def fault? (name : List Char) : Word → Option NameError
  | front text => refusal? (attributeOf name text)
  | behind text => refusal? (backgroundOf name [text])

theorem isKnown_front_iff {text : List Char} :
    (front text).IsKnown ↔ ∃ a, Attribute.named? text = some a := by
  simp only [Attribute.named?_eq_some_iff, IsKnown]
  constructor
  · rintro (⟨e, rfl⟩ | ⟨c, rfl⟩)
    · exact ⟨.effect e, rfl, rfl⟩
    · exact ⟨.foreground c, rfl, rfl⟩
  · rintro ⟨a, hfront, rfl⟩
    cases a with
    | foreground c => exact Or.inr ⟨c, rfl⟩
    | background c => cases hfront
    | effect e => exact Or.inl ⟨e, rfl⟩

theorem isKnown_behind_iff {text : List Char} :
    (behind text).IsKnown ↔ ∃ c, Color.named? text = some c := by
  simp only [Color.named?_eq_some_iff, IsKnown]

theorem fault?_eq_some_iff {name : List Char} {word : Word} {e : NameError} :
    word.fault? name = some e ↔ ¬ word.IsKnown ∧ e = word.error name := by
  cases word with
  | front text =>
      rw [fault?, isKnown_front_iff, refusal?_eq_some_iff, attributeOf, error]
      cases Attribute.named? text <;> simp [eq_comm]
  | behind text =>
      rw [fault?, isKnown_behind_iff, refusal?_eq_some_iff, backgroundOf, error]
      cases Color.named? text <;> simp [eq_comm]

theorem fault?_eq_none_iff {name : List Char} {word : Word} :
    word.fault? name = none ↔ word.IsKnown := by
  rw [Option.eq_none_iff_forall_ne_some]
  simp only [ne_eq, fault?_eq_some_iff, not_and]
  constructor
  · intro h
    by_contra hunknown
    exact h _ hunknown rfl
  · intro hknown e hunknown
    exact absurd hknown hunknown

end Word

/-- Reading a part fails with the first of its words that is not known. -/
theorem refusal?_partOf (name part : List Char) :
    refusal? (partOf name part) =
      (wordsOfCut (backgroundSeparator.pieces part)).findSome? (Word.fault? name) := by
  have hsplit : wordSeparator.pieces (backgroundSeparator.cut part).1 =
      (backgroundSeparator.cut part).1.splitOn '_' := Lexeme.pieces_word_singleton '_' _
  have hwords : refusal? ((wordSeparator.pieces (backgroundSeparator.cut part).1).mapM
      (attributeOf name)) =
      (wordSeparator.pieces (backgroundSeparator.cut part).1).findSome?
        (Word.fault? name ∘ Word.front) := refusal?_mapM _ _
  have hcolors : refusal? (backgroundOf name (backgroundSeparator.cut part).2) =
      (((backgroundSeparator.cut part).2.take 1).map Word.behind).findSome?
        (Word.fault? name) := by
    cases (backgroundSeparator.cut part).2 with
    | nil => rfl
    | cons text more => simp [Word.fault?, backgroundOf]
  rw [Lexeme.pieces, wordsOfCut, List.findSome?_append, ← hcolors, List.findSome?_map, ← hsplit,
    ← hwords, partOf]
  cases hfront :
      (wordSeparator.pieces (backgroundSeparator.cut part).1).mapM (attributeOf name) with
  | error e => simp [hfront, refusal?]
  | ok attributes =>
      cases hbehind : backgroundOf name (backgroundSeparator.cut part).2 with
      | error e => simp [hfront, hbehind, refusal?]
      | ok background => simp [hfront, hbehind, refusal?]

/-- Reading a name fails with the first of its words that is not known. -/
theorem refusal?_ofName {name : List Char} (hname : name ≠ []) {words : List Word}
    (hwords : IsReadAs name words) :
    refusal? (ofName name) = words.findSome? (Word.fault? name) := by
  have hparts := refusal?_mapM (partOf name) (partSeparator.pieces name)
  simp only [refusal?_partOf] at hparts
  rw [isReadAs_iff.1 hwords, findSome?_flatMap, ← hparts, ofName, if_neg hname]
  cases (partSeparator.pieces name).mapM (partOf name) <;> rfl

theorem ofName_eq_error_iff {name : List Char} (hname : name ≠ []) {words : List Word}
    (hwords : IsReadAs name words) {e : NameError} :
    ofName name = .error e ↔
      ∃ before word after, words = before ++ word :: after ∧ (∀ other ∈ before, other.IsKnown) ∧
        ¬ word.IsKnown ∧ e = word.error name := by
  rw [← refusal?_eq_some_iff, refusal?_ofName hname hwords, List.findSome?_eq_some_iff]
  simp only [Word.fault?_eq_some_iff, Word.fault?_eq_none_iff]
  constructor
  · rintro ⟨before, word, after, hsplit, ⟨hunknown, he⟩, hknown⟩
    exact ⟨before, word, after, hsplit, hknown, hunknown, he⟩
  · rintro ⟨before, word, after, hsplit, hknown, hunknown, he⟩
    exact ⟨before, word, after, hsplit, ⟨hunknown, he⟩, hknown⟩

theorem exists_ofName_eq_error_iff {name : List Char} (hname : name ≠ []) {words : List Word}
    (hwords : IsReadAs name words) :
    (∃ e, ofName name = .error e) ↔ ∃ word ∈ words, ¬ word.IsKnown := by
  have hrefusal := refusal?_ofName hname hwords
  constructor
  · rintro ⟨e, he⟩
    rw [refusal?_eq_some_iff.2 he] at hrefusal
    rcases List.exists_of_findSome?_eq_some hrefusal.symm with ⟨word, hword, hfault⟩
    exact ⟨word, hword, (Word.fault?_eq_some_iff.1 hfault).1⟩
  · rintro ⟨word, hword, hunknown⟩
    cases hresult : ofName name with
    | error e => exact ⟨e, rfl⟩
    | ok style =>
        -- Then no word would be at fault.
        rw [hresult, refusal?, eq_comm, List.findSome?_eq_none_iff] at hrefusal
        exact absurd (Word.fault?_eq_none_iff.1 (hrefusal word hword)) hunknown

/-- Only the empty name has nothing in it. -/
theorem ofName_eq_error_empty_iff {name : List Char} :
    ofName name = .error .empty ↔ name = [] := by
  constructor
  · intro h
    by_contra hname
    rcases (ofName_eq_error_iff hname (isReadAs_iff.2 rfl)).1 h with ⟨-, word, -, -, -, -, he⟩
    cases word <;> cases he
  · rintro rfl
    rfl

/-- A name is refused for its first fault. The empty name, and no other, is refused because there is
nothing in it. Every other name has one list of words. It is refused exactly if one of them is not
known, and the error tells the first that is not, and the whole name. -/
theorem ofName_refuses_first_fault :
    (∀ name, ofName name = .error .empty ↔ name = []) ∧
    ∀ name, name ≠ [] → ∃ words, (∀ other, IsReadAs name other ↔ other = words) ∧
      (∀ e, ofName name = .error e ↔
        ∃ before word after, words = before ++ word :: after ∧ (∀ w ∈ before, w.IsKnown) ∧
          ¬ word.IsKnown ∧ e = word.error name) ∧
      ((∃ e, ofName name = .error e) ↔ ∃ word ∈ words, ¬ word.IsKnown) := by
  refine ⟨fun name => ofName_eq_error_empty_iff, ?_⟩
  intro name hname
  let words := (partSeparator.pieces name).flatMap fun part =>
    wordsOfCut (backgroundSeparator.pieces part)
  have hwords : IsReadAs name words := isReadAs_iff.2 rfl
  exact ⟨words, fun other => isReadAs_iff, fun e => ofName_eq_error_iff hname hwords,
    exists_ofName_eq_error_iff hname hwords⟩

/-- An effect is no color behind. That is the first fault: the text after the second `_on_` is no
word, and the next part comes later. -/
theorem ofName_red_on_bold :
    "red_on_bold_on_teal_and_mauve".toList ≠ [] ∧
      ofName "red_on_bold_on_teal_and_mauve".toList =
        .error (.unknownBackground "bold".toList "red_on_bold_on_teal_and_mauve".toList) := by
  have hname : "red_on_bold_on_teal_and_mauve".toList ≠ [] := by decide
  have hread : IsReadAs "red_on_bold_on_teal_and_mauve".toList
      [.front "red".toList, .behind "bold".toList, .front "mauve".toList] :=
    isReadAs_iff.2 (by decide +kernel)
  rcases ofName_refuses_first_fault.2 _ hname with ⟨words, hunique, herror, -⟩
  rw [← (hunique _).1 hread] at herror
  refine ⟨hname, (herror _).2 ⟨[.front "red".toList], _, _, rfl, ?_, ?_, rfl⟩⟩
  · intro w hw
    rw [List.mem_singleton.1 hw]
    exact Or.inr ⟨.red, rfl⟩
  · rintro ⟨c, hc⟩
    cases c <;> exact absurd hc (by decide)

end TerminalDecoration.Style
