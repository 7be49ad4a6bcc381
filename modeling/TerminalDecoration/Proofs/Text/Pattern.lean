/-
# Search patterns

A second reading of the text functions of this library, by pattern matching. A pattern has at each
place of a text a list of outcomes, the preferred one first: a repetition prefers to take more, and
a sequence goes back to the next outcome of its first half only when the second half has none. The
search takes the first outcome at the leftmost place that has one, goes on behind it, and so never
finds two matches that overlap.

No pattern of this library can match the empty text; the search passes over an empty match.
-/

import Mathlib.Data.List.Infix
import TerminalDecoration.Proofs.Text.Scan

namespace TerminalDecoration.Text

/-- What a search looks for. -/
inductive Pattern where
  /-- The empty text. -/
  | nothing
  /-- The empty text at the start of a line. -/
  | lineStart
  /-- One character of a class. -/
  | char (isMember : Char → Bool)
  /-- One pattern and then another. -/
  | seq (first second : Pattern)
  /-- The pattern any number of times, rather more than fewer. -/
  | many (body : Pattern)
  /-- The pattern, with its text noted. -/
  | group (body : Pattern)

namespace Pattern

/-- A place in a text: what lies ahead, and whether a line starts here. -/
structure Place where
  atLineStart : Bool
  rest : List Char

/-- The place after this text has been taken. -/
def Place.skip (place : Place) (text : List Char) : Place :=
  ⟨text.foldl (fun _ c => c == '\n') place.atLineStart, place.rest.drop text.length⟩

/-- One way to match: the text that is taken, and the texts of the groups in their order. -/
@[ext]
structure Match where
  text : List Char
  groups : List (List Char)
  deriving DecidableEq

namespace Match

/-- The match that takes nothing. -/
def empty : Match := ⟨[], []⟩

/-- One match and then another. -/
def append (first second : Match) : Match :=
  ⟨first.text ++ second.text, first.groups ++ second.groups⟩

end Match

/-- The outcomes of taking the body over and over, each time at least one character. -/
def repeatGreedily (body : Place → List Match) (place : Place) : List Match :=
  (body place).flatMap (fun m =>
    if _h : (place.skip m.text).rest.length < place.rest.length then
      (repeatGreedily body (place.skip m.text)).map m.append
    else []) ++ [Match.empty]
termination_by place.rest.length

/-- All ways to match at a place, the preferred one first. -/
def outcomes : Pattern → Place → List Match
  | nothing, _ => [Match.empty]
  | lineStart, place => if place.atLineStart then [Match.empty] else []
  | char isMember, place =>
    match place.rest with
    | c :: _ => if isMember c then [⟨[c], []⟩] else []
    | [] => []
  | seq first second, place =>
    (first.outcomes place).flatMap fun m => (second.outcomes (place.skip m.text)).map m.append
  | many body, place => repeatGreedily body.outcomes place
  | group body, place => (body.outcomes place).map fun m => ⟨m.text, m.text :: m.groups⟩

/-- The pattern at least once. -/
def atLeastOnce (body : Pattern) : Pattern := seq body (many body)

/-- The pattern this many times. -/
def times : Nat → Pattern → Pattern
  | 0, _ => nothing
  | n + 1, body => seq body (times n body)

/-- A fixed word. -/
def word : List Char → Pattern
  | [] => nothing
  | c :: w => seq (char (· == c)) (word w)

/-- The match of a search at this place. -/
def firstMatch? (p : Pattern) (place : Place) : Option Match := (p.outcomes place).head?

/-- The text from a place on as matches and the characters between them. -/
def scan (p : Pattern) (place : Place) : List (Char ⊕ Match) :=
  match _hrest : place.rest with
  | [] => []
  | c :: _ =>
    match p.firstMatch? place with
    | none => .inl c :: p.scan (place.skip [c])
    | some m =>
      if m.text = [] then .inl c :: p.scan (place.skip [c])
      else .inr m :: p.scan (place.skip m.text)
termination_by place.rest.length
decreasing_by
  all_goals simp only [Place.skip, List.length_drop, ‹place.rest = _›, List.length_cons]
  · simp
  · simp
  · have := List.length_pos_iff.2 ‹¬ m.text = []›
    omega

/-- The number of matches in a text. -/
def count (p : Pattern) (s : List Char) : Nat :=
  ((p.scan ⟨true, s⟩).filterMap Sum.getRight?).length

/-- The text with every match replaced. -/
def replaceAll (p : Pattern) (f : Match → List Char) (s : List Char) : List Char :=
  (p.scan ⟨true, s⟩).flatMap (Lexeme.item f)

/-! ## Places -/

@[simp]
theorem Place.skip_nil (place : Place) : place.skip [] = place := rfl

@[simp]
theorem Place.skip_cons_rest (b : Bool) (c : Char) (s : List Char) :
    (⟨b, c :: s⟩ : Place).skip [c] = ⟨c == '\n', s⟩ := rfl

theorem Place.skip_append_rest (b : Bool) (t s : List Char) :
    (⟨b, t ++ s⟩ : Place).skip t = ⟨t.foldl (fun _ c => c == '\n') b, s⟩ := by
  simp only [skip, List.drop_left]

/-- Two texts that are taken one behind the other stand at the place as one. -/
theorem prefix_append_of_skip {place : Place} {m₁ m₂ : Match} (h₁ : m₁.text <+: place.rest)
    (h₂ : m₂.text <+: (place.skip m₁.text).rest) : (m₁.append m₂).text <+: place.rest := by
  obtain ⟨b, s⟩ := place
  obtain ⟨t, rfl⟩ := h₁
  rw [Place.skip_append_rest] at h₂
  exact (List.prefix_append_right_inj m₁.text).2 h₂

/-! ## Outcomes of sequences and words -/

theorem outcomes_seq_of_eq_singleton {first second : Pattern} {place : Place} {m : Match}
    (h : first.outcomes place = [m]) :
    (seq first second).outcomes place =
      (second.outcomes (place.skip m.text)).map m.append := by
  rw [outcomes, h, List.flatMap_cons, List.flatMap_nil, List.append_nil]

theorem outcomes_seq_of_eq_nil {first second : Pattern} {place : Place}
    (h : first.outcomes place = []) : (seq first second).outcomes place = [] := by
  rw [outcomes, h, List.flatMap_nil]

/-- A word matches in one way where it stands. -/
theorem outcomes_word_of_prefix {w : List Char} {place : Place} (h : w <+: place.rest) :
    (word w).outcomes place = [⟨w, []⟩] := by
  induction w generalizing place with
  | nil => rfl
  | cons c w ih =>
      obtain ⟨b, rest⟩ := place
      obtain ⟨s, rfl⟩ := h
      have hchar : (char (· == c)).outcomes ⟨b, c :: w ++ s⟩ = [⟨[c], []⟩] := by
        simp [outcomes]
      rw [word, outcomes_seq_of_eq_singleton hchar, List.cons_append, Place.skip_cons_rest,
        ih (List.prefix_append w s)]
      rfl

/-- A word matches in no way where it does not stand. -/
theorem outcomes_word_of_not_prefix {w : List Char} {place : Place}
    (h : ¬ w <+: place.rest) : (word w).outcomes place = [] := by
  induction w generalizing place with
  | nil => exact absurd List.nil_prefix h
  | cons c w ih =>
      obtain ⟨b, rest⟩ := place
      cases rest with
      | nil => exact outcomes_seq_of_eq_nil rfl
      | cons d s =>
          by_cases hd : d = c
          · subst hd
            have hchar : (char (· == d)).outcomes ⟨b, d :: s⟩ = [⟨[d], []⟩] := by
              simp [outcomes]
            have hw : ¬ w <+: s := fun hw => h (List.cons_prefix_cons.2 ⟨rfl, hw⟩)
            rw [word, outcomes_seq_of_eq_singleton hchar, Place.skip_cons_rest, ih hw]
            rfl
          · exact outcomes_seq_of_eq_nil (by simp [outcomes, hd])

/-! ## Outcomes of repetitions -/

/-- A repetition tries the body once more before it is content with what it has. -/
theorem outcomes_many (body : Pattern) (place : Place) :
    (many body).outcomes place =
      (body.outcomes place).flatMap (fun m =>
        if (place.skip m.text).rest.length < place.rest.length then
          ((many body).outcomes (place.skip m.text)).map m.append
        else []) ++ [Match.empty] := by
  simp only [outcomes]
  rw [repeatGreedily]
  simp only [dite_eq_ite]

/-- A repeated character takes each beginning of the block of members, the longest first. -/
theorem outcomes_many_char (isMember : Char → Bool) (b : Bool) (s : List Char) :
    (many (char isMember)).outcomes ⟨b, s⟩ =
      (s.takeWhile isMember).inits.reverse.map fun u => ⟨u, []⟩ := by
  induction s generalizing b with
  | nil => rw [outcomes_many]; rfl
  | cons c s ih =>
      rw [outcomes_many]
      by_cases hc : isMember c = true
      · have hchar : (char isMember).outcomes ⟨b, c :: s⟩ = [⟨[c], []⟩] := by
          simp [outcomes, hc]
        rw [hchar, List.flatMap_cons, List.flatMap_nil, List.append_nil, Place.skip_cons_rest,
          if_pos (by simp), ih, List.takeWhile_cons_of_pos hc, List.inits_cons,
          List.reverse_cons, ← List.map_reverse, List.map_append, List.map_map, List.map_map]
        rfl
      · have hchar : (char isMember).outcomes ⟨b, c :: s⟩ = [] := by
          simp [outcomes, hc]
        rw [hchar, List.takeWhile_cons_of_neg hc]
        rfl

/-- Behind a shorter beginning of a block stands a member. -/
theorem exists_member_of_prefix_takeWhile {isMember : Char → Bool} {v s : List Char}
    (hv : v <+: s.takeWhile isMember) (hne : v ≠ s.takeWhile isMember) :
    ∃ c t, isMember c = true ∧ s = v ++ c :: t := by
  obtain ⟨u, hu⟩ := hv
  cases u with
  | nil => exact absurd (by simpa using hu) hne
  | cons c u =>
      have hc : isMember c = true := by
        have hall := List.all_takeWhile (p := isMember) (l := s)
        rw [← hu] at hall
        exact List.all_eq_true.1 hall c (by simp)
      refine ⟨c, u ++ s.dropWhile isMember, hc, ?_⟩
      have hs := List.takeWhile_append_dropWhile (p := isMember) (l := s)
      rw [← hu] at hs
      simpa using hs.symm

/-- If a continuation works out for the longest beginning only, it is the only one to try. -/
theorem flatMap_reverse_inits {α : Type} {g : List Char → List α} {u : List Char}
    (h : ∀ v, v <+: u → v ≠ u → g v = []) : u.inits.reverse.flatMap g = g u := by
  induction u generalizing g with
  | nil => simp
  | cons c u ih =>
      have hempty : g [] = [] := h [] List.nil_prefix (by simp)
      have hlonger : ∀ v, v <+: u → v ≠ u → (g ∘ List.cons c) v = [] := fun v hv hne =>
        h (c :: v) (List.cons_prefix_cons.2 ⟨rfl, hv⟩) (by simpa using hne)
      rw [List.inits_cons, List.reverse_cons, ← List.map_reverse, List.flatMap_append,
        List.flatMap_cons, List.flatMap_nil, hempty, List.append_nil, List.append_nil,
        List.flatMap_map]
      exact ih hlonger

/-- No continuation works out if it does for no beginning. -/
theorem flatMap_reverse_inits_eq_nil {α : Type} {g : List Char → List α} {u : List Char}
    (h : ∀ v, v <+: u → g v = []) : u.inits.reverse.flatMap g = [] := by
  rw [flatMap_reverse_inits fun v hv _ => h v hv]
  exact h u (List.prefix_refl u)

/-- The preferred outcome comes from the longest beginning that has one. -/
theorem head?_flatMap_reverse_inits {α : Type} {g : List Char → List α} {start u : List Char}
    {m : α} (hstart : start <+: u) (hm : (g start).head? = some m)
    (hlonger : ∀ v, v <+: u → start.length < v.length → g v = []) :
    (u.inits.reverse.flatMap g).head? = some m := by
  induction u generalizing g start with
  | nil =>
      rw [List.prefix_nil.1 hstart] at hm
      simpa using hm
  | cons c u ih =>
      rw [List.inits_cons, List.reverse_cons, ← List.map_reverse, List.flatMap_append,
        List.flatMap_cons, List.flatMap_nil, List.append_nil, List.flatMap_map]
      cases start with
      | nil =>
          have hnone := flatMap_reverse_inits_eq_nil (u := u) (g := fun v => g (c :: v))
            fun v hv => hlonger (c :: v) (List.cons_prefix_cons.2 ⟨rfl, hv⟩) (by simp)
          rw [hnone, List.nil_append, hm]
      | cons d start =>
          obtain ⟨rfl, hprefix⟩ := List.cons_prefix_cons.1 hstart
          have hfirst := ih (g := fun v => g (d :: v)) hprefix hm fun v hv hlength =>
            hlonger (d :: v) (List.cons_prefix_cons.2 ⟨rfl, hv⟩) (by simpa using hlength)
          rw [List.head?_append, hfirst]
          rfl

/-- A block that the next pattern cannot begin in is taken as a whole. -/
theorem outcomes_seq_many_char {isMember : Char → Bool} {next : Pattern}
    (hnext : ∀ b c s, isMember c = true → next.outcomes ⟨b, c :: s⟩ = []) (b : Bool)
    (s : List Char) :
    (seq (many (char isMember)) next).outcomes ⟨b, s⟩ =
      (next.outcomes ((⟨b, s⟩ : Place).skip (s.takeWhile isMember))).map
        (Match.append ⟨s.takeWhile isMember, []⟩) := by
  rw [outcomes, outcomes_many_char, List.flatMap_map]
  apply flatMap_reverse_inits
  intro v hv hne
  obtain ⟨c, t, hc, rfl⟩ := exists_member_of_prefix_takeWhile hv hne
  rw [Place.skip_append_rest, hnext _ c t hc]
  rfl

/-- Every outcome takes text that stands at the place. -/
theorem prefix_of_mem_outcomes {p : Pattern} {place : Place} {m : Match}
    (h : m ∈ p.outcomes place) : m.text <+: place.rest := by
  induction p generalizing place m with
  | nothing =>
      rw [outcomes, List.mem_singleton] at h
      subst h
      exact List.nil_prefix
  | lineStart =>
      rw [outcomes] at h
      split at h
      · rw [List.mem_singleton] at h
        subst h
        exact List.nil_prefix
      · cases h
  | char isMember =>
      obtain ⟨b, s⟩ := place
      cases s with
      | nil => cases h
      | cons c s =>
          simp only [outcomes] at h
          split at h
          · rw [List.mem_singleton] at h
            subst h
            exact List.prefix_append [c] s
          · cases h
  | seq first second ihfirst ihsecond =>
      obtain ⟨m₁, hm₁, hm⟩ := List.mem_flatMap.1 h
      obtain ⟨m₂, hm₂, rfl⟩ := List.mem_map.1 hm
      exact prefix_append_of_skip (ihfirst hm₁) (ihsecond hm₂)
  | many body ih =>
      induction hlength : place.rest.length using Nat.strong_induction_on generalizing place m with
      | _ n ihlength =>
          rw [outcomes_many, List.mem_append, List.mem_singleton] at h
          rcases h with h | rfl
          · obtain ⟨m₁, hm₁, hm⟩ := List.mem_flatMap.1 h
            split at hm
            · rename_i hshorter
              obtain ⟨m₂, hm₂, rfl⟩ := List.mem_map.1 hm
              exact prefix_append_of_skip (ih hm₁)
                (ihlength _ (by omega) hm₂ rfl)
            · cases hm
          · exact List.nil_prefix
  | group body ih =>
      obtain ⟨inner, hinner, rfl⟩ := List.mem_map.1 h
      have htext := ih hinner
      exact htext

/-! ## One step of a search -/

theorem scan_nil (p : Pattern) (b : Bool) : p.scan ⟨b, []⟩ = [] := by
  rw [scan]

/-- Where nothing matches the search moves on by one character. -/
theorem scan_cons_of_firstMatch?_eq_none {p : Pattern} {b : Bool} {c : Char} {s : List Char}
    (h : p.firstMatch? ⟨b, c :: s⟩ = none) :
    p.scan ⟨b, c :: s⟩ = .inl c :: p.scan ⟨c == '\n', s⟩ := by
  rw [scan]
  simp only [h, Place.skip_cons_rest]

/-- Where something matches the search goes on behind it. -/
theorem scan_append_of_firstMatch? {p : Pattern} {b : Bool} {text s : List Char}
    {groups : List (List Char)} (hne : text ≠ [])
    (h : p.firstMatch? ⟨b, text ++ s⟩ = some ⟨text, groups⟩) :
    p.scan ⟨b, text ++ s⟩ =
      .inr ⟨text, groups⟩ :: p.scan ⟨text.foldl (fun _ c => c == '\n') b, s⟩ := by
  obtain ⟨c, text, rfl⟩ := List.exists_cons_of_ne_nil hne
  rw [List.cons_append] at h ⊢
  rw [scan]
  simp only [h, if_neg hne]
  rw [← List.cons_append, Place.skip_append_rest]

/-! ## Patterns that read lexemes -/

variable {α : Type}

/-- At every place the search finds what the lexeme reads there. -/
def Reads (p : Pattern) (l : Lexeme α) (groups : α → List (List Char)) : Prop :=
  ∀ place : Place, p.firstMatch? place =
    (l.read place.rest).map fun found => ⟨l.write found.1, groups found.1⟩

/-- A pattern that reads a lexeme finds it at the same places of every text. -/
theorem Reads.scan_eq {p : Pattern} {l : Lexeme α} {groups : α → List (List Char)}
    (h : p.Reads l groups) (place : Place) :
    p.scan place = (l.scan place.rest).map (Sum.map id fun a => ⟨l.write a, groups a⟩) := by
  obtain ⟨b, s⟩ := place
  induction s using Lexeme.scan_induction l generalizing b with
  | nil => rw [scan_nil, l.scan_nil, List.map_nil]
  | read c s a rest hread ih =>
      have hfirst : p.firstMatch? ⟨b, l.write a ++ rest⟩ = some ⟨l.write a, groups a⟩ := by
        rw [← l.eq_of_read hread, h, hread]
        rfl
      rw [l.scan_of_read hread, l.eq_of_read hread,
        scan_append_of_firstMatch? (l.write_ne_nil hread) hfirst, ih]
      rfl
  | char c s hread ih =>
      have hfirst : p.firstMatch? ⟨b, c :: s⟩ = none := by
        rw [h, hread]
        rfl
      rw [l.scan_cons_of_read_eq_none hread, scan_cons_of_firstMatch?_eq_none hfirst, ih]
      rfl

/-- Replacing the matches is replacing the occurrences. -/
theorem Reads.replaceAll_eq {p : Pattern} {l : Lexeme α} {groups : α → List (List Char)}
    (h : p.Reads l groups) (f : Match → List Char) (s : List Char) :
    p.replaceAll f s = l.substitute (fun a => f ⟨l.write a, groups a⟩) s := by
  rw [replaceAll, h.scan_eq, Lexeme.substitute, List.flatMap_map]
  congr 1
  funext x
  cases x <;> rfl

/-- There are as many matches as occurrences. -/
theorem Reads.count_eq {p : Pattern} {l : Lexeme α} {groups : α → List (List Char)}
    (h : p.Reads l groups) (s : List Char) : p.count s = (l.occurrences s).length := by
  rw [count, h.scan_eq, Lexeme.occurrences]
  induction l.scan s with
  | nil => rfl
  | cons x items ih =>
      cases x with
      | inl c => exact ih
      | inr a => exact congrArg (· + 1) ih

/-- The pattern of a fixed word reads the word. -/
theorem reads_word {w : List Char} (hw : w ≠ []) :
    (word w).Reads (Lexeme.word w) fun _ => [] := by
  intro place
  by_cases hstands : w <+: place.rest
  · obtain ⟨rest, hrest⟩ := hstands
    rw [firstMatch?, outcomes_word_of_prefix ⟨rest, hrest⟩,
      (Lexeme.word_read_eq_some_iff hw).2 hrest.symm]
    rfl
  · have hnone : (Lexeme.word w).read place.rest = none := by
      cases hread : (Lexeme.word w).read place.rest with
      | none => rfl
      | some found => exact absurd ⟨found.2, ((Lexeme.word w).eq_of_read hread).symm⟩ hstands
    rw [firstMatch?, outcomes_word_of_not_prefix hstands, hnone]
    rfl

end Pattern

end TerminalDecoration.Text
