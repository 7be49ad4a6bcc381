/-
# What a terminal reads

A terminal reads a text from left to right: a select sequence of any number of parameters is so many
parameters to it, every other character is itself. Merging runs changes how parameters are grouped
into sequences and must not change this reading. The place where a run is rewritten is found by its
text alone, so the argument is about texts: a select sequence has the escape only at its front, and
therefore no sequence can come to stand where none stood by writing another one behind it.
-/

import TerminalDecoration.Proofs.Text.Scan
import TerminalDecoration.Control.Run

namespace TerminalDecoration.Control

open Text (Lexeme)

/-! ## Select sequences of any number of parameters -/

/-- A parameter has at least one digit, and nothing else. -/
def IsParameter (p : List Char) : Prop := p ≠ [] ∧ ∀ c ∈ p, c.isDigit = true

/-- A select sequence has at least one parameter. -/
def IsParameterList (ps : List (List Char)) : Prop := ps ≠ [] ∧ ∀ p ∈ ps, IsParameter p

/-- Reads parameters up to the end of the sequence, the digits of the first being read already. -/
def readParameters (digits : List Char) : List Char → Option (List (List Char) × List Char)
  | [] => none
  | c :: s =>
    if c.isDigit then readParameters (digits ++ [c]) s
    else if digits = [] then none
    else if c = 'm' then some ([digits], s)
    else if c = ';' then (readParameters [] s).map fun (ps, rest) => (digits :: ps, rest)
    else none

/-- Reads one select sequence with all its parameters. -/
def readSequence : List Char → Option (List (List Char) × List Char)
  | '\x1b' :: '[' :: body => readParameters [] body
  | _ => none

theorem IsParameter.isParameterList {p : List Char} (hp : IsParameter p) :
    IsParameterList [p] := by
  refine ⟨List.cons_ne_nil p [], ?_⟩
  intro q hq
  rw [List.mem_singleton.1 hq]
  exact hp

theorem IsParameterList.cons {p : List Char} {ps : List (List Char)} (hp : IsParameter p)
    (hps : IsParameterList ps) : IsParameterList (p :: ps) :=
  ⟨List.cons_ne_nil p ps, List.forall_mem_cons.2 ⟨hp, hps.2⟩⟩

/-- Digits are read together with those that were read before. -/
theorem readParameters_append {u : List Char} (hu : ∀ c ∈ u, c.isDigit = true)
    (digits s : List Char) :
    readParameters digits (u ++ s) = readParameters (digits ++ u) s := by
  induction u generalizing digits with
  | nil => rw [List.nil_append, List.append_nil]
  | cons c u ih =>
      have hmore := ih (fun d hd => hu d (List.mem_cons_of_mem c hd)) (digits ++ [c])
      rw [List.cons_append, readParameters, if_pos (hu c List.mem_cons_self), hmore,
        List.append_assoc, List.singleton_append]

/-- Written parameters are read back. -/
theorem readParameters_intercalate {ps : List (List Char)} (hps : IsParameterList ps)
    (rest : List Char) :
    readParameters [] (List.intercalate [';'] ps ++ 'm' :: rest) = some (ps, rest) := by
  rcases hps with ⟨hne, hall⟩
  induction ps with
  | nil => exact absurd rfl hne
  | cons p ps ih =>
      have hp := hall p List.mem_cons_self
      cases ps with
      | nil =>
          rw [List.intercalate_singleton, readParameters_append hp.2, List.nil_append,
            readParameters, if_neg (by decide), if_neg hp.1, if_pos rfl]
      | cons q ps =>
          have hmore := ih (List.cons_ne_nil q ps) fun r hr => hall r (List.mem_cons_of_mem p hr)
          rw [List.intercalate_cons_cons, List.append_assoc, List.append_assoc,
            readParameters_append hp.2, List.nil_append, List.singleton_append, readParameters,
            if_neg (by decide), if_neg hp.1, if_neg (by decide), if_pos rfl, hmore]
          rfl

/-- What is read are written parameters, the first of them beginning with the digits that were read
before. -/
theorem eq_of_readParameters {digits s rest : List Char} {ps : List (List Char)}
    (hdigits : ∀ c ∈ digits, c.isDigit = true)
    (h : readParameters digits s = some (ps, rest)) :
    IsParameterList ps ∧ digits ++ s = List.intercalate [';'] ps ++ 'm' :: rest := by
  fun_induction readParameters digits s generalizing ps with
  | case1 => cases h
  | case2 digits c s hc ih =>
      have hmore : ∀ d ∈ digits ++ [c], d.isDigit = true :=
        List.forall_mem_append.2 ⟨hdigits, List.forall_mem_singleton.2 hc⟩
      rw [← List.singleton_append (l := s), ← List.append_assoc]
      exact ih hmore h
  | case3 => cases h
  | case4 digits s hne _ =>
      cases h
      have hparameter : IsParameter digits := ⟨hne, hdigits⟩
      exact ⟨hparameter.isParameterList, by rw [List.intercalate_singleton]⟩
  | case5 digits s hne _ _ ih =>
      rcases Option.map_eq_some_iff.1 h with ⟨⟨more, rest'⟩, hread, heq⟩
      cases heq
      rcases ih (by simp) hread with ⟨hmore, hs⟩
      refine ⟨hmore.cons ⟨hne, hdigits⟩, ?_⟩
      rw [List.nil_append] at hs
      rw [List.intercalate_cons_of_ne_nil hmore.1, hs]
      simp
  | case6 => cases h

/-- The form of a select sequence with any number of parameters. -/
theorem readSequence_eq_some_iff {s rest : List Char} {ps : List (List Char)} :
    readSequence s = some (ps, rest) ↔ IsParameterList ps ∧ s = select ps ++ rest := by
  have hwrite : select ps ++ rest =
      escape :: '[' :: (List.intercalate [';'] ps ++ 'm' :: rest) := by
    simp [select]
  rw [hwrite]
  constructor
  · intro h
    unfold readSequence at h
    split at h
    · rcases eq_of_readParameters (by simp) h with ⟨hps, hbody⟩
      rw [List.nil_append] at hbody
      exact ⟨hps, by rw [hbody]; rfl⟩
    · cases h
  · rintro ⟨hps, rfl⟩
    exact readParameters_intercalate hps rest

/-- A select sequence with any number of parameters. -/
def sequence : Lexeme (List (List Char)) where
  read := readSequence
  write := select
  eq_of_read h := (readSequence_eq_some_iff.1 h).2
  write_ne_nil _ := by simp [select]

theorem sequence_read_eq_some_iff {s rest : List Char} {ps : List (List Char)} :
    sequence.read s = some (ps, rest) ↔ IsParameterList ps ∧ s = select ps ++ rest :=
  readSequence_eq_some_iff

theorem isDelimited_sequence : sequence.IsDelimited := by
  intro s ps rest hread after
  exact sequence_read_eq_some_iff.2 ⟨(sequence_read_eq_some_iff.1 hread).1, rfl⟩

/-- Written parameters hold digits and separators only. -/
theorem not_mem_intercalate {c : Char} (hdigit : c.isDigit = false) (hseparator : c ≠ ';')
    {ps : List (List Char)} (hps : ∀ p ∈ ps, IsParameter p) :
    c ∉ List.intercalate [';'] ps := by
  have hdigits : ∀ p, IsParameter p → c ∉ p := by
    intro p hp hmem
    have hisDigit := hp.2 c hmem
    rw [hdigit] at hisDigit
    cases hisDigit
  induction ps with
  | nil => simp
  | cons p ps ih =>
      have hp := hdigits p (hps p List.mem_cons_self)
      have hmore := ih fun q hq => hps q (List.mem_cons_of_mem p hq)
      cases ps with
      | nil => rwa [List.intercalate_singleton]
      | cons q ps =>
          rw [List.intercalate_cons_cons]
          simp only [List.mem_append, List.mem_singleton, not_or]
          exact ⟨⟨hp, hseparator⟩, hmore⟩

theorem isOpenedBy_sequence : sequence.IsOpenedBy escape := by
  intro s ps rest hread
  refine ⟨'[' :: (List.intercalate [';'] ps ++ ['m']), rfl, ?_⟩
  have hps := (sequence_read_eq_some_iff.1 hread).1
  simp only [List.mem_cons, List.mem_append, List.not_mem_nil, or_false, not_or]
  exact ⟨by decide, not_mem_intercalate (by decide) (by decide) hps.2, by decide⟩

/-! ## The reading of a text -/

/-- What a terminal takes from a text. -/
inductive Event where
  /-- A character that belongs to no select sequence. -/
  | char (c : Char)
  /-- A parameter of a select sequence, with its digits. -/
  | parameter (digits : List Char)
  deriving DecidableEq

/-- The events of one scanned item. -/
def Event.ofItem : Char ⊕ List (List Char) → List Event
  | .inl c => [char c]
  | .inr ps => ps.map parameter

/-- The text as a terminal reads it, from left to right. -/
def events (s : List Char) : List Event := (sequence.scan s).flatMap Event.ofItem

theorem events_of_read {s rest : List Char} {ps : List (List Char)}
    (h : sequence.read s = some (ps, rest)) : events s = ps.map .parameter ++ events rest := by
  rw [events, sequence.scan_of_read h]
  rfl

theorem events_select_append {ps : List (List Char)} (hps : IsParameterList ps)
    (s : List Char) : events (select ps ++ s) = ps.map .parameter ++ events s :=
  events_of_read (sequence_read_eq_some_iff.2 ⟨hps, rfl⟩)

/-- Singles side by side are read one after the other. -/
theorem events_writeSingles_append {ps : List (List Char)} (hps : ∀ p ∈ ps, IsParameter p)
    (s : List Char) : events (writeSingles ps ++ s) = ps.map .parameter ++ events s := by
  induction ps with
  | nil => rfl
  | cons p ps ih =>
      have hp := (hps p List.mem_cons_self).isParameterList
      have hmore := ih fun q hq => hps q (List.mem_cons_of_mem p hq)
      rw [writeSingles, List.flatMap_cons, List.append_assoc, events_select_append hp]
      exact congrArg (Event.parameter p :: ·) hmore

/-! ## Parameters of runs -/

theorem isParameter_of_readSingle {s p rest : List Char} (h : readSingle s = some (p, rest)) :
    IsParameter p := by
  unfold readSingle at h
  split at h
  · rename_i body
    split at h
    · rename_i d digits rest' htake _
      cases h
      refine ⟨List.cons_ne_nil d digits, fun c hc => ?_⟩
      have hall := List.all_takeWhile (p := Char.isDigit) (l := body)
      rw [htake] at hall
      exact List.all_eq_true.1 hall c hc
    · cases h
  · cases h

theorem isParameter_of_mem_readSingles {s p : List Char} (h : p ∈ (readSingles s).1) :
    IsParameter p := by
  fun_induction readSingles s with
  | case1 s q rest hread ih =>
      rcases List.mem_cons.1 h with rfl | h
      · exact isParameter_of_readSingle hread
      · exact ih h
  | case2 s hread => cases h

theorem isParameterList_of_firstRun? {s : List Char} {ps : List (List Char)}
    (h : firstRun? s = some ps) : IsParameterList ps := by
  obtain ⟨t, rest, hread⟩ := run.exists_read_of_mem_occurrences (List.mem_of_head? h)
  have hrun : readRun t = some (ps, rest) := hread
  unfold readRun at hrun
  split at hrun
  · rename_i p q more rest' hsingles
    cases hrun
    refine ⟨List.cons_ne_nil _ _, fun r hr => isParameter_of_mem_readSingles (s := t) ?_⟩
    rw [hsingles]
    exact hr
  · cases hrun

/-! ## Merging keeps the reading -/

/-- A merge rewrites the singles of some parameters into one sequence, or nothing at all. -/
theorem mergeFirstRun_eq_self_or (s : List Char) :
    mergeFirstRun s = s ∨ ∃ ps, IsParameterList ps ∧
      mergeFirstRun s = (Lexeme.word (writeSingles ps)).substitute (fun _ => select ps) s := by
  rw [mergeFirstRun]
  split
  · exact .inl rfl
  · rename_i ps hrun
    exact .inr ⟨ps, isParameterList_of_firstRun? hrun, rfl⟩

/-- Rewriting singles into one sequence wherever they stand side by side changes no event. -/
theorem events_substitute_writeSingles {ps : List (List Char)} (hps : IsParameterList ps)
    (s : List Char) :
    events ((Lexeme.word (writeSingles ps)).substitute (fun _ => select ps) s) = events s := by
  obtain ⟨w, hw⟩ : ∃ w, writeSingles ps = escape :: w := by
    obtain ⟨p, more, rfl⟩ := List.exists_cons_of_ne_nil hps.1
    exact ⟨_, rfl⟩
  have hbegin : (Lexeme.word (writeSingles ps)).BeginsWith escape := by
    rw [hw]
    exact Lexeme.beginsWith_word escape w
  apply isDelimited_sequence.flatMap_scan_substitute isOpenedBy_sequence hbegin
  · intro t qs rest hread _
    exact ⟨escape, _, rfl, isOpenedBy_sequence.isNotInside hread⟩
  · intro _ _ _ _
    refine ⟨ps.map .parameter, ?_⟩
    intro t
    exact ⟨events_select_append hps t, events_writeSingles_append hps.2 t⟩

/-- Merging the first run, wherever its text stands, leaves to the terminal what it read before. -/
theorem events_mergeFirstRun (s : List Char) : events (mergeFirstRun s) = events s := by
  rw [mergeFirstRun]
  split
  · rfl
  · rename_i ps hrun
    exact events_substitute_writeSingles (isParameterList_of_firstRun? hrun) s

end TerminalDecoration.Control
