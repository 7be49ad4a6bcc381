/-
# Laws of the leftmost scan

The scan takes a lexeme wherever one can be read and moves on by one character where none can. This
module turns that recursion into equations, and adds what holds of the well-behaved lexemes of this
library: reading does not look past the closing character, and the opening character stands nowhere
else in a lexeme. For these a text may be scanned in parts, and text without the opening character
is copied.
-/

import TerminalDecoration.Text.Lexeme

namespace TerminalDecoration.Text.Lexeme

variable {α : Type} (l : Lexeme α)

/-! ## Equations of the scan -/

@[simp]
theorem scan_nil : l.scan [] = [] := by
  rw [scan]

@[simp]
theorem substitute_nil (f : α → List Char) : l.substitute f [] = [] := by
  simp [substitute]

@[simp]
theorem occurrences_nil : l.occurrences [] = [] := by
  simp [occurrences]

/-- What holds of the empty text and is kept by every step of the scan holds of all texts. -/
@[elab_as_elim]
theorem scan_induction {motive : List Char → Prop} (nil : motive [])
    (read : ∀ c s a rest, l.read (c :: s) = some (a, rest) → motive rest → motive (c :: s))
    (char : ∀ c s, l.read (c :: s) = none → motive s → motive (c :: s)) (s : List Char) :
    motive s := by
  fun_induction l.scan s with
  | case1 => exact nil
  | case2 c s a rest hread ih => exact read c s a rest hread ih
  | case3 c s hread ih => exact char c s hread ih

/-- Only a text of at least one character can be read. -/
theorem ne_nil_of_read {s : List Char} {a : α} {rest : List Char}
    (h : l.read s = some (a, rest)) : s ≠ [] := by
  have hshorter := l.length_lt_of_read h
  rintro rfl
  simp at hshorter

/-- Where a lexeme can be read the scan takes it. -/
theorem scan_of_read {s : List Char} {a : α} {rest : List Char}
    (h : l.read s = some (a, rest)) : l.scan s = .inr a :: l.scan rest := by
  cases s with
  | nil => exact absurd rfl (l.ne_nil_of_read h)
  | cons c s =>
      rw [scan]
      split
      · rename_i hread
        rw [h] at hread
        cases hread
        rfl
      · rename_i hread
        rw [h] at hread
        cases hread

/-- Where no lexeme can be read the scan takes one character. -/
theorem scan_cons_of_read_eq_none {c : Char} {s : List Char} (h : l.read (c :: s) = none) :
    l.scan (c :: s) = .inl c :: l.scan s := by
  rw [scan]
  split
  · rename_i hread
    rw [h] at hread
    cases hread
  · rfl

theorem substitute_of_read {f : α → List Char} {s : List Char} {a : α} {rest : List Char}
    (h : l.read s = some (a, rest)) : l.substitute f s = f a ++ l.substitute f rest := by
  simp only [substitute, l.scan_of_read h, List.flatMap_cons, item]

theorem substitute_cons_of_read_eq_none {f : α → List Char} {c : Char} {s : List Char}
    (h : l.read (c :: s) = none) : l.substitute f (c :: s) = c :: l.substitute f s := by
  simp only [substitute, l.scan_cons_of_read_eq_none h, List.flatMap_cons, item,
    List.singleton_append]

theorem occurrences_of_read {s : List Char} {a : α} {rest : List Char}
    (h : l.read s = some (a, rest)) : l.occurrences s = a :: l.occurrences rest := by
  simp only [occurrences, l.scan_of_read h, List.filterMap_cons, Sum.getRight?_inr]

theorem occurrences_cons_of_read_eq_none {c : Char} {s : List Char}
    (h : l.read (c :: s) = none) : l.occurrences (c :: s) = l.occurrences s := by
  simp only [occurrences, l.scan_cons_of_read_eq_none h, List.filterMap_cons,
    Sum.getRight?_inl]

/-- An occurrence was read somewhere. -/
theorem exists_read_of_mem_occurrences {s : List Char} {a : α} (h : a ∈ l.occurrences s) :
    ∃ t rest, l.read t = some (a, rest) := by
  induction s using scan_induction l with
  | nil => simp at h
  | read c s b rest hread ih =>
      rw [l.occurrences_of_read hread, List.mem_cons] at h
      rcases h with rfl | h
      · exact ⟨c :: s, rest, hread⟩
      · exact ih h
  | char c s hread ih =>
      rw [l.occurrences_cons_of_read_eq_none hread] at h
      exact ih h

/-- What occurs in a text stands in it. -/
theorem write_infix_of_mem_occurrences {s : List Char} {a : α} (h : a ∈ l.occurrences s) :
    l.write a <:+: s := by
  induction s using scan_induction l with
  | nil => simp at h
  | read c s b rest hread ih =>
      rw [l.occurrences_of_read hread, List.mem_cons] at h
      rw [l.eq_of_read hread]
      rcases h with rfl | h
      · exact (List.prefix_append _ rest).isInfix
      · exact (ih h).trans (List.suffix_append _ rest).isInfix
  | char c s hread ih =>
      rw [l.occurrences_cons_of_read_eq_none hread] at h
      exact (ih h).trans (List.suffix_cons c s).isInfix

/-- Nothing occurs in a text exactly if nothing can be read at any place of it. -/
theorem occurrences_eq_nil_iff {s : List Char} :
    l.occurrences s = [] ↔ ∀ t, t <:+ s → l.read t = none := by
  constructor
  · intro h t ht
    induction s using scan_induction l with
    | nil =>
        rw [List.suffix_nil.1 ht]
        cases hread : l.read [] with
        | none => rfl
        | some found => exact absurd rfl (l.ne_nil_of_read hread)
    | read c s a rest hread ih =>
        rw [l.occurrences_of_read hread] at h
        cases h
    | char c s hread ih =>
        rw [l.occurrences_cons_of_read_eq_none hread] at h
        rcases List.suffix_cons_iff.1 ht with rfl | ht
        · exact hread
        · exact ih h ht
  · intro h
    induction s with
    | nil => exact l.occurrences_nil
    | cons c s ih =>
        rw [l.occurrences_cons_of_read_eq_none (h _ List.suffix_rfl)]
        exact ih fun t ht => h t (ht.trans (List.suffix_cons c s))

/-- A text in which nothing is found is left alone by every substitution. -/
theorem substitute_eq_self_of_occurrences_eq_nil (f : α → List Char) {s : List Char}
    (h : l.occurrences s = []) : l.substitute f s = s := by
  induction s using scan_induction l with
  | nil => exact l.substitute_nil f
  | read c s a rest hread ih =>
      rw [l.occurrences_of_read hread] at h
      cases h
  | char c s hread ih =>
      rw [l.occurrences_cons_of_read_eq_none hread] at h
      rw [l.substitute_cons_of_read_eq_none hread, ih h]

/-- If every substitute is shorter than what it replaces, each occurrence makes the text shorter. -/
theorem length_substitute_add_le {f : α → List Char}
    (hf : ∀ a, (f a).length < (l.write a).length) (s : List Char) :
    (l.substitute f s).length + (l.occurrences s).length ≤ s.length := by
  induction s using scan_induction l with
  | nil => simp
  | read c s a rest hread ih =>
      have hshorter := hf a
      rw [l.substitute_of_read hread, l.occurrences_of_read hread, l.eq_of_read hread]
      simp only [List.length_append, List.length_cons]
      omega
  | char c s hread ih =>
      rw [l.substitute_cons_of_read_eq_none hread, l.occurrences_cons_of_read_eq_none hread]
      simp only [List.length_cons]
      omega

/-! ## Scanning in parts -/

/-- What follows a lexeme has no part in reading it. -/
def IsDelimited : Prop :=
  ∀ ⦃s : List Char⦄ ⦃a : α⦄ ⦃rest : List Char⦄, l.read s = some (a, rest) →
    ∀ after : List Char, l.read (l.write a ++ after) = some (a, after)

/-- This character can stand in a lexeme only at its front. -/
def IsNotInside (c : Char) : Prop :=
  ∀ ⦃s : List Char⦄ ⦃a : α⦄ ⦃rest : List Char⦄, l.read s = some (a, rest) →
    c ∉ (l.write a).tail

/-- Every lexeme begins with this character. -/
def BeginsWith (c : Char) : Prop :=
  ∀ ⦃s : List Char⦄ ⦃a : α⦄ ⦃rest : List Char⦄, l.read s = some (a, rest) →
    ∃ tail, l.write a = c :: tail

/-- Every lexeme begins with this character and has it nowhere else. -/
def IsOpenedBy (c : Char) : Prop :=
  ∀ ⦃s : List Char⦄ ⦃a : α⦄ ⦃rest : List Char⦄, l.read s = some (a, rest) →
    ∃ tail, l.write a = c :: tail ∧ c ∉ tail

/-- This character stands in no lexeme. -/
def Avoids (c : Char) : Prop :=
  ∀ ⦃s : List Char⦄ ⦃a : α⦄ ⦃rest : List Char⦄, l.read s = some (a, rest) → c ∉ l.write a

variable {l}

theorem IsOpenedBy.isNotInside {c : Char} (hopen : l.IsOpenedBy c) : l.IsNotInside c := by
  intro s a rest hread
  obtain ⟨tail, hwrite, hmem⟩ := hopen hread
  rw [hwrite]
  exact hmem

theorem IsOpenedBy.beginsWith {c : Char} (hopen : l.IsOpenedBy c) : l.BeginsWith c := by
  intro s a rest hread
  obtain ⟨tail, hwrite, -⟩ := hopen hread
  exact ⟨tail, hwrite⟩

/-- Nothing can be read at any other character. -/
theorem BeginsWith.read_cons_eq_none {c d : Char} (hbegin : l.BeginsWith c) (hne : d ≠ c)
    (s : List Char) : l.read (d :: s) = none := by
  cases hread : l.read (d :: s) with
  | none => rfl
  | some found =>
      obtain ⟨a, rest⟩ := found
      obtain ⟨tail, hwrite⟩ := hbegin hread
      have hs := l.eq_of_read hread
      rw [hwrite] at hs
      exact absurd (List.cons.inj hs).1 hne

/-- Text without the opening character is scanned character by character. -/
theorem BeginsWith.scan_append {c : Char} (hbegin : l.BeginsWith c) {u : List Char}
    (hu : c ∉ u) (s : List Char) : l.scan (u ++ s) = u.map Sum.inl ++ l.scan s := by
  induction u with
  | nil => rfl
  | cons d u ih =>
      simp only [List.mem_cons, not_or] at hu
      rw [List.cons_append,
        l.scan_cons_of_read_eq_none (hbegin.read_cons_eq_none (Ne.symm hu.1) (u ++ s)),
        ih hu.2, List.map_cons, List.cons_append]

theorem flatMap_item_map_inl (f : α → List Char) (u : List Char) :
    (u.map Sum.inl).flatMap (item f) = u := by
  induction u with
  | nil => rfl
  | cons c u ih => rw [List.map_cons, List.flatMap_cons, ih, item, List.singleton_append]

theorem BeginsWith.substitute_append {c : Char} (hbegin : l.BeginsWith c)
    (f : α → List Char) {u : List Char} (hu : c ∉ u) (s : List Char) :
    l.substitute f (u ++ s) = u ++ l.substitute f s := by
  simp only [substitute, hbegin.scan_append hu, List.flatMap_append, flatMap_item_map_inl]

theorem BeginsWith.occurrences_append {c : Char} (hbegin : l.BeginsWith c) {u : List Char}
    (hu : c ∉ u) (s : List Char) : l.occurrences (u ++ s) = l.occurrences s := by
  induction u with
  | nil => rfl
  | cons d u ih =>
      simp only [List.mem_cons, not_or] at hu
      rw [List.cons_append,
        l.occurrences_cons_of_read_eq_none (hbegin.read_cons_eq_none (Ne.symm hu.1) (u ++ s)),
        ih hu.2]

/-- A lexeme that is written back is copied character by character. -/
theorem IsOpenedBy.substitute_cons_of_kept {c d : Char} (hopen : l.IsOpenedBy c)
    {f : α → List Char} {s : List Char}
    (hkept : ∀ a rest, l.read (d :: s) = some (a, rest) → f a = l.write a) :
    l.substitute f (d :: s) = d :: l.substitute f s := by
  cases hread : l.read (d :: s) with
  | none => exact l.substitute_cons_of_read_eq_none hread
  | some found =>
      obtain ⟨a, rest⟩ := found
      obtain ⟨tail, hwrite, htail⟩ := hopen hread
      have hs := l.eq_of_read hread
      rw [hwrite, List.cons_append] at hs
      obtain ⟨rfl, rfl⟩ := List.cons.inj hs
      rw [l.substitute_of_read hread, hkept a rest hread, hwrite,
        hopen.beginsWith.substitute_append f htail, List.cons_append]

/-- A lexeme that can be read off a text can be read off every longer one. -/
theorem IsDelimited.read_append (hdel : l.IsDelimited) {s : List Char} {a : α}
    {rest : List Char} (h : l.read s = some (a, rest)) (t : List Char) :
    l.read (s ++ t) = some (a, rest ++ t) := by
  rw [l.eq_of_read h, List.append_assoc]
  exact hdel h (rest ++ t)

/-- No lexeme reaches over a character that can only open one, so what can be read before such a
character could be read without it. -/
theorem IsDelimited.exists_read_of_read_append_cons (hdel : l.IsDelimited) {c : Char}
    (hc : l.IsNotInside c) {s t rest : List Char} {a : α} (hs : s ≠ [])
    (h : l.read (s ++ c :: t) = some (a, rest)) : ∃ rest', l.read s = some (a, rest') := by
  obtain ⟨d, s, rfl⟩ := List.exists_cons_of_ne_nil hs
  obtain ⟨e, w, hwrite⟩ := List.exists_cons_of_ne_nil (l.write_ne_nil h)
  have hmem := hc h
  have heq := l.eq_of_read h
  rw [hwrite, List.cons_append, List.cons_append] at heq
  obtain ⟨rfl, hbody⟩ := List.cons.inj heq
  rw [hwrite, List.tail_cons] at hmem
  have hshort : ∃ x, s = w ++ x := by
    rcases List.append_eq_append_iff.1 hbody with ⟨x, hw, hx⟩ | ⟨x, hs, -⟩
    · cases x with
      | nil => exact ⟨[], by simpa using hw.symm⟩
      | cons y x =>
          rw [List.cons_append] at hx
          rw [hw, (List.cons.inj hx).1] at hmem
          simp at hmem
    · exact ⟨x, hs⟩
  obtain ⟨x, rfl⟩ := hshort
  have hfound := hdel h x
  rw [hwrite, List.cons_append] at hfound
  exact ⟨x, hfound⟩

/-- The scan may be cut before a character that can only open a lexeme. -/
theorem IsDelimited.scan_append_cons (hdel : l.IsDelimited) {c : Char}
    (hc : l.IsNotInside c) (s t : List Char) :
    l.scan (s ++ c :: t) = l.scan s ++ l.scan (c :: t) := by
  induction s using scan_induction l with
  | nil => simp
  | read d s a rest hread ih =>
      rw [l.scan_of_read hread, l.scan_of_read (hdel.read_append hread (c :: t)), ih,
        List.cons_append]
  | char d s hread ih =>
      have hnone : l.read (d :: (s ++ c :: t)) = none := by
        cases hlong : l.read (d :: (s ++ c :: t)) with
        | none => rfl
        | some found =>
            obtain ⟨rest, hfound⟩ :=
              hdel.exists_read_of_read_append_cons hc (List.cons_ne_nil d s) hlong
            rw [hread] at hfound
            cases hfound
      rw [List.cons_append, l.scan_cons_of_read_eq_none hnone, ih,
        l.scan_cons_of_read_eq_none hread, List.cons_append]

/-! ## Scanning around a character that stands in no lexeme -/

theorem Avoids.isNotInside {c : Char} (havoid : l.Avoids c) : l.IsNotInside c :=
  fun _ _ _ hread hmem => havoid hread (List.mem_of_mem_tail hmem)

theorem Avoids.read_cons_eq_none {c : Char} (havoid : l.Avoids c) (s : List Char) :
    l.read (c :: s) = none := by
  cases hread : l.read (c :: s) with
  | none => rfl
  | some found =>
      obtain ⟨d, w, hwrite⟩ := List.exists_cons_of_ne_nil (l.write_ne_nil hread)
      have havoided := havoid hread
      have hs := l.eq_of_read hread
      rw [hwrite, List.cons_append] at hs
      rw [hwrite, (List.cons.inj hs).1] at havoided
      exact absurd List.mem_cons_self havoided

/-- Such a character is scanned by itself, and the text before and behind it without the other. -/
theorem IsDelimited.scan_append_avoided (hdel : l.IsDelimited) {c : Char} (havoid : l.Avoids c)
    (s t : List Char) : l.scan (s ++ c :: t) = l.scan s ++ .inl c :: l.scan t := by
  rw [hdel.scan_append_cons havoid.isNotInside,
    l.scan_cons_of_read_eq_none (havoid.read_cons_eq_none t)]

theorem IsDelimited.substitute_append_avoided (hdel : l.IsDelimited) {c : Char}
    (havoid : l.Avoids c) (f : α → List Char) (s t : List Char) :
    l.substitute f (s ++ c :: t) = l.substitute f s ++ c :: l.substitute f t := by
  simp only [substitute, hdel.scan_append_avoided havoid, List.flatMap_append, List.flatMap_cons,
    item, List.singleton_append]

theorem IsDelimited.occurrences_append_avoided (hdel : l.IsDelimited) {c : Char}
    (havoid : l.Avoids c) (s t : List Char) :
    l.occurrences (s ++ c :: t) = l.occurrences s ++ l.occurrences t := by
  simp only [occurrences, hdel.scan_append_avoided havoid, List.filterMap_append,
    List.filterMap_cons, Sum.getRight?_inl]

/-! ## What a substitution cannot make up -/

/-- If no substitute begins with a character of `w`, then `w` stands at the front of the result only
where it stood at the front of the text. -/
theorem isPrefix_of_isPrefix_substitute {f : α → List Char} {w s : List Char}
    (hf : ∀ a, ∃ c t, f a = c :: t ∧ c ∉ w) (h : w <+: l.substitute f s) : w <+: s := by
  induction s using scan_induction l generalizing w with
  | nil => simpa using h
  | read c s a rest hread ih =>
      rcases hf a with ⟨d, t, hfa, hd⟩
      rw [l.substitute_of_read hread, hfa, List.cons_append] at h
      cases w with
      | nil => exact List.nil_prefix
      | cons e w =>
          rw [List.cons_prefix_cons] at h
          exact absurd (by simp [h.1]) hd
  | char c s hread ih =>
      rw [l.substitute_cons_of_read_eq_none hread] at h
      cases w with
      | nil => exact List.nil_prefix
      | cons e w =>
          rw [List.cons_prefix_cons] at h ⊢
          refine ⟨h.1, ih (fun a => ?_) h.2⟩
          rcases hf a with ⟨d, t, hfa, hd⟩
          exact ⟨d, t, hfa, fun hmem => hd (List.mem_cons_of_mem e hmem)⟩

/-- What can be read at a kept character after a substitution could be read there before, if no
substitute begins with a character from behind the front of what was read. -/
theorem IsDelimited.exists_read_of_read_substitute {β : Type} {m : Lexeme β}
    (hdel : l.IsDelimited) {f : β → List Char} {c : Char} {s rest : List Char} {a : α}
    (hf : ∀ b, ∃ d t, f b = d :: t ∧ d ∉ (l.write a).tail)
    (h : l.read (c :: m.substitute f s) = some (a, rest)) :
    ∃ rest', l.read (c :: s) = some (a, rest') := by
  obtain ⟨e, w, hwrite⟩ := List.exists_cons_of_ne_nil (l.write_ne_nil h)
  have heq := l.eq_of_read h
  rw [hwrite, List.cons_append] at heq
  obtain ⟨rfl, htail⟩ := List.cons.inj heq
  have hfront : w <+: s := by
    rw [hwrite, List.tail_cons] at hf
    exact isPrefix_of_isPrefix_substitute hf ⟨rest, htail.symm⟩
  obtain ⟨rest', rfl⟩ := hfront
  refine ⟨rest', ?_⟩
  rw [← List.cons_append, ← hwrite]
  exact hdel h rest'

/-- No lexeme comes up in a substitution, if its opening character stands in no substitute, no
substitute begins with a character from behind its front, and at every place where nothing was
replaced no lexeme could be read before. -/
theorem IsDelimited.occurrences_substitute_eq_nil {β : Type} {m : Lexeme β}
    (hdel : l.IsDelimited) {c : Char} (hbegin : l.BeginsWith c) {f : β → List Char}
    (hopen : ∀ b, c ∉ f b)
    (hfront : ∀ {s a rest}, l.read s = some (a, rest) →
      ∀ b, ∃ d t, f b = d :: t ∧ d ∉ (l.write a).tail)
    {s : List Char} (hkept : ∀ t, t <:+ s → m.read t = none → l.read t = none) :
    l.occurrences (m.substitute f s) = [] := by
  induction s using scan_induction m with
  | nil => rw [m.substitute_nil, l.occurrences_nil]
  | read d s b rest hread ih =>
      rw [m.substitute_of_read hread, hbegin.occurrences_append (hopen b)]
      apply ih
      intro t ht
      exact hkept t (ht.trans (m.eq_of_read hread ▸ List.suffix_append _ rest))
  | char d s hread ih =>
      have hnone : l.read (d :: m.substitute f s) = none := by
        cases hlong : l.read (d :: m.substitute f s) with
        | none => rfl
        | some found =>
            obtain ⟨rest, hrest⟩ := hdel.exists_read_of_read_substitute (hfront hlong) hlong
            rw [hkept _ List.suffix_rfl hread] at hrest
            cases hrest
      rw [m.substitute_cons_of_read_eq_none hread, l.occurrences_cons_of_read_eq_none hnone]
      exact ih fun t ht => hkept t (ht.trans (List.suffix_cons d s))

/-- A substitution does not change what another lexeme's scan amounts to, if every substitute
amounts to the same as the occurrence that it replaces. Both lexemes begin with a character that the
scanned one has only at its front, so that occurrences are read as a whole or not at all; and no
substitute begins with a character that could complete a lexeme before it. -/
theorem IsDelimited.flatMap_scan_substitute {β γ : Type} {m : Lexeme β} (hdel : l.IsDelimited)
    {c : Char} (hopen : l.IsOpenedBy c) (hbegin : m.BeginsWith c) {f : β → List Char}
    (hfront : ∀ {s a rest}, l.read s = some (a, rest) →
      ∀ b, ∃ d t, f b = d :: t ∧ d ∉ (l.write a).tail)
    (g : Char ⊕ α → List γ)
    (hsame : ∀ {s b rest}, m.read s = some (b, rest) → ∃ ys, ∀ t,
      (l.scan (f b ++ t)).flatMap g = ys ++ (l.scan t).flatMap g ∧
        (l.scan (m.write b ++ t)).flatMap g = ys ++ (l.scan t).flatMap g)
    (s : List Char) :
    (l.scan (m.substitute f s)).flatMap g = (l.scan s).flatMap g := by
  induction s using scan_induction m with
  | nil => rw [m.substitute_nil]
  | read d s b rest hread ih =>
      rcases hsame hread with ⟨ys, hys⟩
      rw [m.substitute_of_read hread, m.eq_of_read hread, (hys _).1, (hys rest).2, ih]
  | char d s hread ih =>
      rw [m.substitute_cons_of_read_eq_none hread]
      cases hkept : l.read (d :: s) with
      | none =>
          have hnone : l.read (d :: m.substitute f s) = none := by
            cases hlong : l.read (d :: m.substitute f s) with
            | none => rfl
            | some found =>
                rcases hdel.exists_read_of_read_substitute (hfront hlong) hlong with ⟨rest, hrest⟩
                rw [hkept] at hrest
                cases hrest
          rw [l.scan_cons_of_read_eq_none hnone, l.scan_cons_of_read_eq_none hkept,
            List.flatMap_cons, List.flatMap_cons, ih]
      | some found =>
          -- Behind its front the kept lexeme is copied, so the scans agree from its end on.
          obtain ⟨a, rest⟩ := found
          obtain ⟨tail, hwrite, htail⟩ := hopen hkept
          have hs := l.eq_of_read hkept
          rw [hwrite, List.cons_append] at hs
          obtain ⟨rfl, rfl⟩ := List.cons.inj hs
          rw [hbegin.substitute_append f htail] at ih ⊢
          rw [hopen.beginsWith.scan_append htail, hopen.beginsWith.scan_append htail,
            List.flatMap_append, List.flatMap_append, List.append_cancel_left_eq] at ih
          rw [← List.cons_append, ← List.cons_append, ← hwrite, l.scan_of_read (hdel hkept _),
            l.scan_of_read (hdel hkept _), List.flatMap_cons, List.flatMap_cons, ih]

/-! ## Fixed words -/

/-- A word of at least one character is read exactly where it stands. -/
theorem word_read_eq_some_iff {w s rest : List Char} (hw : w ≠ []) :
    (word w).read s = some ((), rest) ↔ s = w ++ rest := by
  simp [word, hw, after?_eq_some_iff]

/-- What follows a word has no part in reading it. -/
theorem isDelimited_word (w : List Char) : (word w).IsDelimited := by
  intro s a rest hread after
  exact (word_read_eq_some_iff ((word w).write_ne_nil hread)).2 rfl

theorem avoids_word {c : Char} {w : List Char} (hc : c ∉ w) : (word w).Avoids c :=
  fun _ _ _ _ => hc

/-- A word occurs in a text exactly if it stands there. -/
theorem word_occurrences_eq_nil_iff {w s : List Char} (hw : w ≠ []) :
    (word w).occurrences s = [] ↔ ¬ w <:+: s := by
  rw [occurrences_eq_nil_iff]
  constructor
  · intro h hstands
    obtain ⟨t, ⟨rest, hrest⟩, hsuffix⟩ := List.infix_iff_prefix_suffix.1 hstands
    have hread := (word_read_eq_some_iff hw).2 hrest.symm
    rw [h t hsuffix] at hread
    cases hread
  · intro h t hsuffix
    cases hread : (word w).read t with
    | none => rfl
    | some found =>
        have hfront : w <+: t := ⟨found.2, ((word_read_eq_some_iff hw).1 hread).symm⟩
        exact absurd (hfront.isInfix.trans hsuffix.isInfix) h

theorem beginsWith_word (c : Char) (w : List Char) : (word (c :: w)).BeginsWith c := by
  intro s a rest _
  exact ⟨w, rfl⟩

end TerminalDecoration.Text.Lexeme
