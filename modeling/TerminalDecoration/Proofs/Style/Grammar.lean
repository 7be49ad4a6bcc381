/-
# The grammar of style names

Reading a name splits it three times, at separators that all share the underscore, and forgets what
follows a second `_on_`. This module says in one definition what the names of a list of parts are,
without splitting anything, and shows that reading accepts exactly these names and gives exactly
these parts. No word of the tables is `on` or `and`, so the text of a part holds no separator but
the one that it was written with.
-/

import Mathlib.Data.List.Forall2
import TerminalDecoration.Proofs.Attribute
import TerminalDecoration.Proofs.Text.Pieces
import TerminalDecoration.Style

namespace TerminalDecoration.Style

open Text (Lexeme)

/-! ## The grammar -/

/-- A part that a name can ask for has attributes, and none of them is a color behind. -/
def Part.IsProper (part : Part) : Prop :=
  part.attributes ≠ [] ∧ ∀ a ∈ part.attributes, a.isBackground = false

/-- The names of the attributes with `_` between them. -/
def Part.words (part : Part) : List Char :=
  List.intercalate "_".toList (part.attributes.map Attribute.name)

/-- The text of a part: its words, and the color behind if there is one. -/
def Part.write (part : Part) : List Char :=
  match part.background with
  | none => part.words
  | some c => part.words ++ "_on_".toList ++ c.name

/-- A text stands for a part if it is the text of the part, or begins with it and goes on with any
second `_on_`; only a part with a color behind can have such a tail. -/
def Part.IsWritten (part : Part) (text : List Char) : Prop :=
  text = part.write ∨
    part.background.isSome = true ∧ ∃ tail, text = part.write ++ "_on_".toList ++ tail

/-- A name of these parts is joined from texts of the parts by `_and_`. No text holds the separator,
and none before the last ends with the front of one. -/
def IsNameOf (parts : List Part) (name : List Char) : Prop :=
  ∃ texts : List (List Char),
    texts ≠ [] ∧ name = List.intercalate "_and_".toList texts ∧
      List.Forall₂ (fun text part => part.IsProper ∧ part.IsWritten text) texts parts ∧
        (∀ text ∈ texts, ¬ "_and_".toList <:+: text) ∧
          ∀ text ∈ texts.dropLast, ¬ "_and".toList <:+ text

/-- The name that parts are written as, without tails. -/
def write (parts : List Part) : List Char :=
  List.intercalate "_and_".toList (parts.map Part.write)

/-- No part of the name goes on after its color behind. -/
def IsTailFree (name : List Char) : Prop :=
  ∀ text ∈ partSeparator.pieces name, (backgroundSeparator.occurrences text).length ≤ 1

/-! ## Words -/

theorem underscore_not_mem_name (a : Attribute) : '_' ∉ a.name := by
  have hall : ∀ a ∈ Attribute.all, '_' ∉ a.name := by decide
  exact hall a a.mem_all

theorem on_ne_name (a : Attribute) : "on".toList ≠ a.name := by
  have hall : ∀ a ∈ Attribute.all, "on".toList ≠ a.name := by decide
  exact hall a a.mem_all

theorem and_ne_name (a : Attribute) : "and".toList ≠ a.name := by
  have hall : ∀ a ∈ Attribute.all, "and".toList ≠ a.name := by decide
  exact hall a a.mem_all

theorem splitOn_color_name (c : Color) : c.name.splitOn '_' = [c.name] :=
  List.splitOn_eq_singleton (underscore_not_mem_name (.foreground c))

/-- Splitting the words of a part gives the names of its attributes. -/
theorem Part.IsProper.splitOn_words {part : Part} (hproper : part.IsProper) :
    part.words.splitOn '_' = part.attributes.map Attribute.name := by
  apply List.splitOn_intercalate
  · intro word hword
    rcases List.mem_map.1 hword with ⟨a, -, rfl⟩
    exact underscore_not_mem_name a
  · intro h
    exact hproper.1 (List.map_eq_nil_iff.1 h)

/-- A word that no attribute has as its name is none of the words. -/
theorem Part.IsProper.not_mem_splitOn_words {part : Part} (hproper : part.IsProper)
    {word : List Char} (hword : ∀ a : Attribute, word ≠ a.name) :
    word ∉ part.words.splitOn '_' := by
  rw [hproper.splitOn_words]
  intro h
  rcases List.mem_map.1 h with ⟨a, -, ha⟩
  exact hword a ha.symm

theorem Part.IsProper.and_not_mem_splitOn_write {part : Part} (hproper : part.IsProper) :
    "and".toList ∉ part.write.splitOn '_' := by
  have hwords := hproper.not_mem_splitOn_words and_ne_name
  rw [Part.write]
  cases part.background with
  | none => exact hwords
  | some c =>
      have hwrite : part.words ++ "_on_".toList ++ c.name =
          part.words ++ '_' :: ("on".toList ++ '_' :: c.name) := by simp
      have hcolor := and_ne_name (.foreground c)
      show "and".toList ∉ (part.words ++ "_on_".toList ++ c.name).splitOn '_'
      rw [hwrite, List.splitOn_append_cons_self,
        List.splitOn_append_cons_self_of_not_mem (by decide), splitOn_color_name]
      intro h
      rcases List.mem_append.1 h with h | h
      · exact hwords h
      · rcases List.mem_cons.1 h with h | h
        · exact absurd h (by decide)
        · exact hcolor (List.mem_singleton.1 h)

/-- Only the separators that a name is written with stand in it. -/
theorem Part.IsProper.not_infix_write {part : Part} (hproper : part.IsProper) :
    ¬ "_and_".toList <:+: part.write ++ "_and".toList :=
  Lexeme.not_infix_append_of_not_mem_splitOn (c := '_') (x := "and".toList) (by decide)
    hproper.and_not_mem_splitOn_write

/-! ## The text of a part, cut before its colors behind -/

/-- The texts that the color behind adds to the words. -/
def Part.behind (part : Part) : List (List Char) := part.background.toList.map Color.name

theorem not_infix_color_name (c : Color) : ¬ "_on_".toList <:+: c.name ++ "_on".toList := by
  apply Lexeme.not_infix_append_of_not_mem_splitOn (c := '_') (x := "on".toList) (by decide)
  rw [splitOn_color_name, List.mem_singleton]
  exact on_ne_name (.foreground c)

theorem Part.IsProper.not_infix_words {part : Part} (hproper : part.IsProper) :
    ¬ "_on_".toList <:+: part.words ++ "_on".toList :=
  Lexeme.not_infix_append_of_not_mem_splitOn (c := '_') (x := "on".toList) (by decide)
    (hproper.not_mem_splitOn_words on_ne_name)

theorem Part.IsProper.pieces_write {part : Part} (hproper : part.IsProper) :
    backgroundSeparator.pieces part.write = part.words :: part.behind := by
  have hwords : ¬ "_on_".toList <:+: part.words := by
    intro h
    exact hproper.not_infix_words (h.trans (List.prefix_append _ _).isInfix)
  rw [Part.write, Part.behind]
  cases part.background with
  | none => exact Lexeme.pieces_word_eq_singleton (by decide) hwords
  | some c =>
      have hcolor : ¬ "_on_".toList <:+: c.name := by
        intro h
        exact not_infix_color_name c (h.trans (List.prefix_append _ _).isInfix)
      refine (Lexeme.pieces_word_append (by decide) hproper.not_infix_words c.name).trans ?_
      rw [Lexeme.pieces_word_eq_singleton (by decide) hcolor]
      rfl

/-- A tail adds pieces behind those of the part. -/
theorem Part.IsProper.pieces_write_append {part : Part} (hproper : part.IsProper)
    (hbackground : part.background.isSome = true) (tail : List Char) :
    backgroundSeparator.pieces (part.write ++ "_on_".toList ++ tail) =
      part.words :: part.behind ++ backgroundSeparator.pieces tail := by
  rw [Part.write, Part.behind]
  cases hcolor : part.background with
  | none =>
      rw [hcolor] at hbackground
      cases hbackground
  | some c =>
      have hassoc : part.words ++ "_on_".toList ++ c.name ++ "_on_".toList ++ tail =
          part.words ++ "_on_".toList ++ (c.name ++ "_on_".toList ++ tail) := by simp
      show backgroundSeparator.pieces
        (part.words ++ "_on_".toList ++ c.name ++ "_on_".toList ++ tail) = _
      rw [hassoc]
      refine (Lexeme.pieces_word_append (by decide) hproper.not_infix_words _).trans ?_
      rw [Lexeme.pieces_word_append (by decide) (not_infix_color_name c)]
      rfl

/-! ## Reading a part -/

/-- Reading a list succeeds when reading every member does. -/
theorem mapM_eq_ok_iff {α β ε : Type} {f : α → Except ε β} {xs : List α} {ys : List β} :
    xs.mapM f = .ok ys ↔ List.Forall₂ (fun x y => f x = .ok y) xs ys := by
  induction xs generalizing ys with
  | nil =>
      rw [List.forall₂_nil_left_iff]
      exact ⟨fun h => (Except.ok.inj h).symm, fun h => congrArg Except.ok h.symm⟩
  | cons x xs ih =>
      rw [List.mapM_cons, List.forall₂_cons_left_iff]
      constructor
      · intro h
        cases hx : f x with
        | error e =>
            rw [hx] at h
            cases h
        | ok y =>
            cases hxs : xs.mapM f with
            | error e =>
                rw [hx, hxs] at h
                cases h
            | ok ys' =>
                rw [hx, hxs] at h
                cases h
                exact ⟨y, ys', rfl, ih.1 hxs, rfl⟩
      · rintro ⟨y, ys', hx, hxs, rfl⟩
        rw [hx, ih.2 hxs]
        rfl

theorem attributeOf_eq_ok_iff {name word : List Char} {a : Attribute} :
    attributeOf name word = .ok a ↔ a.isBackground = false ∧ word = a.name := by
  rw [← Attribute.named?_eq_some_iff, attributeOf]
  cases Attribute.named? word with
  | none => simp
  | some b => simp

theorem mapM_attributeOf_eq_ok_iff {name : List Char} {words : List (List Char)}
    {attributes : List Attribute} :
    words.mapM (attributeOf name) = .ok attributes ↔
      (∀ a ∈ attributes, a.isBackground = false) ∧ words = attributes.map Attribute.name := by
  rw [mapM_eq_ok_iff]
  constructor
  · intro h
    induction h with
    | nil => simp
    | cons hword _ ih =>
        rcases attributeOf_eq_ok_iff.1 hword with ⟨hfront, rfl⟩
        exact ⟨List.forall_mem_cons.2 ⟨hfront, ih.1⟩, by rw [ih.2, List.map_cons]⟩
  · rintro ⟨hfront, rfl⟩
    rw [List.forall₂_map_left_iff, List.forall₂_same]
    intro a ha
    exact attributeOf_eq_ok_iff.2 ⟨hfront a ha, rfl⟩

/-- The first text behind is the name of the color behind, if there is any text behind. -/
theorem backgroundOf_eq_ok_iff {name : List Char} {texts : List (List Char)}
    {background : Option Color} :
    backgroundOf name texts = .ok background ↔
      texts.take 1 = background.toList.map Color.name := by
  cases texts with
  | nil =>
      cases background with
      | none => simp [backgroundOf]
      | some c => simp [backgroundOf]
  | cons word more =>
      cases hword : Color.named? word with
      | none =>
          have hnot : ∀ c : Color, word ≠ c.name := by
            intro c hc
            rw [Color.named?_eq_some_iff.2 hc] at hword
            cases hword
          cases background with
          | none => simp [backgroundOf, hword]
          | some c => simp [backgroundOf, hword, hnot c]
      | some d =>
          cases background with
          | none => simp [backgroundOf, hword]
          | some c =>
              have hname : word = c.name ↔ d = c := by
                rw [← Color.named?_eq_some_iff, hword, Option.some.injEq]
              simp [backgroundOf, hword, hname]

/-- A part is read from the text before the first `_on_` and the text between the first two. -/
theorem partOf_eq_ok_iff_take {name text : List Char} {part : Part} :
    partOf name text = .ok part ↔
      part.IsProper ∧ (backgroundSeparator.pieces text).take 2 = part.words :: part.behind := by
  have hread : partOf name text = .ok part ↔
      (wordSeparator.pieces (backgroundSeparator.cut text).1).mapM (attributeOf name) =
          .ok part.attributes ∧
        backgroundOf name (backgroundSeparator.cut text).2 = .ok part.background := by
    rw [partOf]
    cases hwords : (wordSeparator.pieces (backgroundSeparator.cut text).1).mapM
        (attributeOf name) with
    | error e => simp [hwords]
    | ok attributes =>
        cases hbehind : backgroundOf name (backgroundSeparator.cut text).2 with
        | error e => simp [hwords, hbehind]
        | ok background =>
            cases part
            simp [hwords, hbehind, and_comm]
  have hsplit : wordSeparator.pieces (backgroundSeparator.cut text).1 =
      (backgroundSeparator.cut text).1.splitOn '_' := Lexeme.pieces_word_singleton '_' _
  rw [hread, mapM_attributeOf_eq_ok_iff, backgroundOf_eq_ok_iff, hsplit, Lexeme.pieces,
    List.take_succ_cons, List.cons.injEq, Part.behind]
  constructor
  · rintro ⟨⟨hfront, hnames⟩, hbehind⟩
    have hne : part.attributes ≠ [] := by
      intro h
      rw [h] at hnames
      exact List.splitOn_ne_nil _ _ hnames
    refine ⟨⟨hne, hfront⟩, ?_, hbehind⟩
    rw [Part.words, ← hnames]
    exact (List.intercalate_splitOn '_').symm
  · rintro ⟨hproper, hwords, hbehind⟩
    rw [hwords, hproper.splitOn_words]
    exact ⟨⟨hproper.2, rfl⟩, hbehind⟩

/-- A text whose first pieces are those of a part stands for the part; any further pieces are its
tail. -/
theorem Part.isWritten_of_take_pieces {part : Part} {text : List Char}
    (h : (backgroundSeparator.pieces text).take 2 = part.words :: part.behind) :
    part.IsWritten text := by
  have htext : List.intercalate "_on_".toList (backgroundSeparator.pieces text) = text :=
    Lexeme.intercalate_pieces_word (by decide) text
  rw [Lexeme.pieces, List.take_succ_cons, List.cons.injEq, Part.behind] at h
  rw [Lexeme.pieces, h.1] at htext
  have hbehind := h.2
  rw [Part.IsWritten, Part.write]
  cases hbackground : part.background with
  | none =>
      left
      rw [hbackground] at hbehind
      have hnil : (backgroundSeparator.cut text).2 = [] := by simpa using hbehind
      rw [hnil, List.intercalate_singleton] at htext
      exact htext.symm
  | some c =>
      rw [hbackground] at hbehind
      cases hmore : (backgroundSeparator.cut text).2 with
      | nil =>
          rw [hmore] at hbehind
          cases hbehind
      | cons color more =>
          rw [hmore] at hbehind htext
          have hcolor : color = c.name := (List.cons.inj hbehind).1
          rw [hcolor, List.intercalate_cons_cons] at htext
          cases more with
          | nil =>
              left
              rw [List.intercalate_singleton] at htext
              exact htext.symm
          | cons q qs =>
              right
              rw [List.intercalate_cons_cons] at htext
              refine ⟨rfl, List.intercalate "_on_".toList (q :: qs), ?_⟩
              rw [← htext]
              simp

/-- Reading a part accepts its texts and nothing else. -/
theorem partOf_eq_ok_iff {name text : List Char} {part : Part} :
    partOf name text = .ok part ↔ part.IsProper ∧ part.IsWritten text := by
  rw [partOf_eq_ok_iff_take]
  refine and_congr_right fun hproper => ⟨Part.isWritten_of_take_pieces, fun hwritten => ?_⟩
  rcases hwritten with rfl | ⟨hbackground, tail, rfl⟩
  · rw [hproper.pieces_write, Part.behind]
    cases part.background <;> rfl
  · rcases Option.isSome_iff_exists.1 hbackground with ⟨c, hcolor⟩
    rw [hproper.pieces_write_append hbackground, Part.behind, hcolor]
    rfl

/-! ## Reading a name -/

/-- The texts of a name are its pieces, so a name is one of these parts if its pieces are texts of
them. -/
theorem isNameOf_iff {parts : List Part} {name : List Char} :
    IsNameOf parts name ↔
      List.Forall₂ (fun text part => part.IsProper ∧ part.IsWritten text)
        (partSeparator.pieces name) parts := by
  have hcut (texts : List (List Char)) :
      partSeparator.pieces name = texts ↔
        (texts ≠ [] ∧ (∀ text ∈ texts, ¬ "_and_".toList <:+: text) ∧
          ∀ text ∈ texts.dropLast, ¬ "_and".toList <:+ text) ∧
            name = List.intercalate "_and_".toList texts := by
    refine (Lexeme.pieces_word_eq_iff (by decide)).trans (and_congr_left fun _ => ?_)
    exact Lexeme.isCut_iff (c := '_') (x := "and".toList) (by decide)
  constructor
  · rintro ⟨texts, hne, hname, hparts, hwithin, hend⟩
    rw [(hcut texts).2 ⟨⟨hne, hwithin, hend⟩, hname⟩]
    exact hparts
  · intro h
    rcases (hcut _).1 rfl with ⟨⟨hne, hwithin, hend⟩, hname⟩
    exact ⟨partSeparator.pieces name, hne, hname, h, hwithin, hend⟩

theorem Part.IsProper.words_ne_nil {part : Part} (hproper : part.IsProper) :
    part.words ≠ [] := by
  intro h
  have hsplit := hproper.splitOn_words
  rw [h, List.splitOn_nil] at hsplit
  have hmem : [] ∈ part.attributes.map Attribute.name := by
    rw [← hsplit]
    exact List.mem_singleton_self []
  rcases List.mem_map.1 hmem with ⟨a, -, ha⟩
  have hall : ∀ a ∈ Attribute.all, a.name ≠ [] := by decide
  exact hall a a.mem_all ha

theorem Part.IsProper.ne_nil_of_isWritten {part : Part} (hproper : part.IsProper)
    {text : List Char} (hwritten : part.IsWritten text) : text ≠ [] := by
  have hwrite : part.write ≠ [] := by
    rw [Part.write]
    cases part.background with
    | none => exact hproper.words_ne_nil
    | some c => simp
  rcases hwritten with rfl | ⟨-, tail, rfl⟩
  · exact hwrite
  · simp

/-- Reading a name accepts the names of its parts and nothing else. -/
theorem ofName_eq_ok_iff {name : List Char} {style : Style} :
    ofName name = .ok style ↔ style.name = name ∧ IsNameOf style.parts name := by
  have hread : ofName name = .ok style ↔ name ≠ [] ∧ style.name = name ∧
      (partSeparator.pieces name).mapM (partOf name) = .ok style.parts := by
    rw [ofName]
    by_cases hempty : name = []
    · simp [hempty]
    · cases hparts : (partSeparator.pieces name).mapM (partOf name) with
      | error e => simp [hempty]
      | ok parts =>
          cases style
          simp [hempty, eq_comm]
  rw [hread, mapM_eq_ok_iff, isNameOf_iff]
  simp only [partOf_eq_ok_iff]
  refine ⟨And.right, fun h => ⟨?_, h⟩⟩
  rintro rfl
  rw [partSeparator.pieces_nil] at h
  rcases List.forall₂_cons_left_iff.1 h.2 with ⟨part, -, ⟨hproper, hwritten⟩, -, -⟩
  exact hproper.ne_nil_of_isWritten hwritten rfl

/-! ## Writing parts and reading them back -/

theorem IsNameOf.parts_ne_nil {parts : List Part} {name : List Char}
    (h : IsNameOf parts name) : parts ≠ [] := by
  rintro rfl
  have hpieces := List.forall₂_nil_right_iff.1 (isNameOf_iff.1 h)
  exact List.cons_ne_nil _ _ hpieces

theorem IsNameOf.isProper_of_mem {parts : List Part} {name : List Char}
    (h : IsNameOf parts name) {part : Part} (hpart : part ∈ parts) : part.IsProper := by
  rcases h with ⟨texts, -, -, hparts, -, -⟩
  induction hparts with
  | nil => cases hpart
  | cons htext _ ih =>
      rcases List.mem_cons.1 hpart with rfl | hpart
      · exact htext.1
      · exact ih hpart

theorem pieces_write {parts : List Part} (hne : parts ≠ [])
    (hproper : ∀ part ∈ parts, part.IsProper) :
    partSeparator.pieces (write parts) = parts.map Part.write := by
  have hwrite : ∀ text ∈ parts.map Part.write,
      ¬ "_and_".toList <:+: text ∧ ¬ "_and".toList <:+ text := by
    intro text htext
    rcases List.mem_map.1 htext with ⟨part, hpart, rfl⟩
    have hnot := (hproper part hpart).not_infix_write
    exact not_or.1 fun h => hnot
      ((Lexeme.infix_append_iff (c := '_') (x := "and".toList) (by decide)).2 h)
  refine (Lexeme.pieces_word_eq_iff (by decide)).2 ⟨?_, rfl⟩
  refine (Lexeme.isCut_iff (c := '_') (x := "and".toList) (by decide)).2 ⟨?_, ?_, ?_⟩
  · exact fun h => hne (List.map_eq_nil_iff.1 h)
  · exact fun text htext => (hwrite text htext).1
  · exact fun text htext => (hwrite text (List.dropLast_subset _ htext)).2

theorem isNameOf_write {parts : List Part} (hne : parts ≠ [])
    (hproper : ∀ part ∈ parts, part.IsProper) : IsNameOf parts (write parts) := by
  rw [isNameOf_iff, pieces_write hne hproper, List.forall₂_map_left_iff, List.forall₂_same]
  intro part hpart
  exact ⟨hproper part hpart, Or.inl rfl⟩

/-- A text of a part has no tail if it holds one `_on_` at most. -/
theorem Part.IsWritten.eq_write_iff {part : Part} {text : List Char}
    (hwritten : part.IsWritten text) (hproper : part.IsProper) :
    text = part.write ↔ (backgroundSeparator.occurrences text).length ≤ 1 := by
  have hlength := backgroundSeparator.length_pieces text
  constructor
  · intro h
    rw [h, hproper.pieces_write, List.length_cons, Part.behind, List.length_map] at hlength
    have hcolor := Option.length_toList_le (o := part.background)
    rw [h]
    omega
  · intro h
    rcases hwritten with hwrite | ⟨hbackground, tail, htail⟩
    · exact hwrite
    · rcases Option.isSome_iff_exists.1 hbackground with ⟨c, hcolor⟩
      have hmore := backgroundSeparator.length_pieces tail
      rw [htail, hproper.pieces_write_append hbackground, List.length_append, Part.behind, hcolor,
        hmore, ← htail] at hlength
      simp only [Option.toList_some, List.map_cons, List.map_nil, List.length_cons,
        List.length_nil] at hlength
      omega

theorem isTailFree_iff {parts : List Part} {name : List Char} (h : IsNameOf parts name) :
    IsTailFree name ↔ write parts = name := by
  constructor
  · intro hfree
    have hpieces : partSeparator.pieces name = parts.map Part.write := by
      rw [← List.forall₂_eq_eq_eq, List.forall₂_map_right_iff]
      refine ((List.forall₂_and_left _ _).2 ⟨hfree, isNameOf_iff.1 h⟩).imp ?_
      rintro text part ⟨hshort, hproper, hwritten⟩
      exact (hwritten.eq_write_iff hproper).2 hshort
    rw [write, ← hpieces]
    exact Lexeme.intercalate_pieces_word (by decide) name
  · intro hwrite
    have hpieces := pieces_write h.parts_ne_nil fun _ => h.isProper_of_mem
    rw [IsTailFree, ← hwrite, hpieces]
    intro text htext
    rcases List.mem_map.1 htext with ⟨part, hpart, rfl⟩
    have hwritten : part.IsWritten part.write := Or.inl rfl
    exact (hwritten.eq_write_iff (h.isProper_of_mem hpart)).1 rfl

theorem isCompound_iff {style : Style} (h : IsNameOf style.parts style.name) :
    style.isCompound = true ↔ 2 ≤ style.parts.length := by
  have hlength := (isNameOf_iff.1 h).length_eq
  rw [partSeparator.length_pieces] at hlength
  rw [isCompound, Bool.not_eq_true', List.isEmpty_eq_false_iff, ← List.length_pos_iff]
  omega

/-- Reading accepts exactly the grammar and gives the one list of parts that a name has. Lists of
proper parts and the accepted names without tails are the same thing in two forms; what is accepted
has parts, all of them proper, and is compound when there are at least two. -/
theorem ofName_accepts_grammar :
    (∀ name style, ofName name = .ok style ↔
      style.name = name ∧ IsNameOf style.parts name) ∧
    (∀ name parts parts', IsNameOf parts name → IsNameOf parts' name → parts = parts') ∧
    (∀ parts : List Part, parts ≠ [] → (∀ part ∈ parts, part.IsProper) →
      ofName (write parts) = .ok ⟨write parts, parts⟩ ∧ IsTailFree (write parts)) ∧
    (∀ name style, ofName name = .ok style →
      (IsTailFree name ↔ write style.parts = name) ∧ style.parts ≠ [] ∧
        (∀ part ∈ style.parts, part.IsProper) ∧
          (style.isCompound = true ↔ 2 ≤ style.parts.length)) := by
  refine ⟨fun _ _ => ofName_eq_ok_iff, ?unique, ?written, ?accepted⟩
  case unique =>
    intro name parts parts' h h'
    have hread : ofName name = .ok ⟨name, parts⟩ := ofName_eq_ok_iff.2 ⟨rfl, h⟩
    have hread' : ofName name = .ok ⟨name, parts'⟩ := ofName_eq_ok_iff.2 ⟨rfl, h'⟩
    rw [hread] at hread'
    cases hread'
    rfl
  case written =>
    intro parts hne hproper
    have hname := isNameOf_write hne hproper
    exact ⟨ofName_eq_ok_iff.2 ⟨rfl, hname⟩, (isTailFree_iff hname).2 rfl⟩
  case accepted =>
    intro name style h
    rcases ofName_eq_ok_iff.1 h with ⟨rfl, hname⟩
    exact ⟨isTailFree_iff hname, hname.parts_ne_nil, fun _ => hname.isProper_of_mem,
      isCompound_iff hname⟩

/-- Bold on red with a tail, and up: the tail is forgotten, so writing the parts gives a shorter
name, which is read as the same parts. -/
theorem ofName_bold_on_red_and_up :
    ∃ style, ofName "bold_on_red_on__and_up".toList = .ok style ∧
      write style.parts = "bold_on_red_and_up".toList ∧
      ¬ IsTailFree "bold_on_red_on__and_up".toList ∧
      ofName (write style.parts) = .ok ⟨write style.parts, style.parts⟩ ∧
      style.isCompound = true := by
  have hgrammar := ofName_accepts_grammar
  have hread : ofName "bold_on_red_on__and_up".toList =
      .ok ⟨"bold_on_red_on__and_up".toList,
        [⟨some .red, [.effect .bold]⟩, ⟨none, [.effect .up]⟩]⟩ := by
    rw [hgrammar.1]
    refine ⟨rfl, ["bold_on_red_on_".toList, "up".toList], by decide, by simp, ?_,
      by decide +kernel, by decide +kernel⟩
    refine .cons ⟨⟨by decide, by decide⟩, Or.inr ⟨rfl, [], ?_⟩⟩ ?_
    · decide +kernel
    · exact .cons ⟨⟨by decide, by decide⟩, Or.inl (by decide +kernel)⟩ .nil
  rcases hgrammar.2.2.2 _ _ hread with ⟨hfree, hne, hproper, hcompound⟩
  have hwrite : write [⟨some .red, [.effect .bold]⟩, ⟨none, [.effect .up]⟩] =
      "bold_on_red_and_up".toList := by decide +kernel
  refine ⟨_, hread, hwrite, ?_, (hgrammar.2.2.1 _ hne hproper).1, hcompound.2 (by decide)⟩
  rw [hfree, hwrite]
  decide +kernel

end TerminalDecoration.Style
