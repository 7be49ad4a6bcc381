/-
# Plain text by pattern search

Leaving rewound lines out and deleting tokens are described by search patterns too: a token is its
opening, a word and a brace; a rewound line is a line start, some text up to rewinds, and the lines
behind them. The line loop and the scan of tokens are shown to replace exactly the matches of these
patterns. Of the many ways to match a rewound line the preferred one keeps the text before the last
rewind of the line, whatever the lines that are swallowed hold.
-/

import Mathlib.Data.List.TakeWhile
import TerminalDecoration.Proofs.Markup.Line
import TerminalDecoration.Proofs.Text.Pattern
import TerminalDecoration.Markup.Plain

namespace TerminalDecoration.Markup

open Text (Lexeme Pattern WordClass isWord)
open Text.Pattern (Match Place)

/-! ## Tokens -/

section

variable [WordClass]

/-- An opening, a word that is noted, and a brace. -/
def tokenPattern (start : List Char) : Pattern :=
  .seq (.word start) (.seq (.group (.atLeastOnce (.char isWord))) (.word ['}']))

omit [WordClass] in
/-- A noted word takes a member and each beginning of the block behind it. -/
theorem outcomes_group_atLeastOnce_char {isMember : Char → Bool} {b : Bool} {c : Char}
    {s : List Char} (hc : isMember c = true) :
    (Pattern.group (.atLeastOnce (.char isMember))).outcomes ⟨b, c :: s⟩ =
      (s.takeWhile isMember).inits.reverse.map fun u => ⟨c :: u, [c :: u]⟩ := by
  have hchar : (Pattern.char isMember).outcomes ⟨b, c :: s⟩ = [⟨[c], []⟩] := by
    simp [Pattern.outcomes, hc]
  rw [Pattern.outcomes, Pattern.atLeastOnce, Pattern.outcomes_seq_of_eq_singleton hchar,
    Place.skip_cons_rest, Pattern.outcomes_many_char, List.map_map, List.map_map]
  rfl

omit [WordClass] in
/-- A brace matches where it stands. -/
theorem outcomes_brace (b : Bool) (s : List Char) :
    (Pattern.word ['}']).outcomes ⟨b, s⟩ =
      if s.head? = some '}' then [⟨['}'], []⟩] else [] := by
  cases s with
  | nil => rfl
  | cons d s =>
      by_cases hd : d = '}'
      · rw [Pattern.outcomes_word_of_prefix (by simp [hd]), if_pos (by simp [hd])]
      · rw [Pattern.outcomes_word_of_not_prefix (by simp [Ne.symm hd]), if_neg (by simp [hd])]

/-- A noted word before a brace is what is read behind the opening of a token: behind a shorter word
stands no brace. -/
theorem outcomes_word_brace (b : Bool) (body : List Char) :
    (Pattern.seq (.group (.atLeastOnce (.char isWord))) (.word ['}'])).outcomes ⟨b, body⟩ =
      ((readToken [] body).map fun found => ⟨found.1 ++ ['}'], [found.1]⟩).toList := by
  cases body with
  | nil => rfl
  | cons c s =>
      by_cases hc : isWord c = true
      · simp only [readToken, Text.after?, List.takeWhile_cons_of_pos hc,
          List.dropWhile_cons_of_pos hc]
        rw [Pattern.outcomes, outcomes_group_atLeastOnce_char hc, List.flatMap_map,
          Pattern.flatMap_reverse_inits]
        · have hs : c :: s = c :: s.takeWhile isWord ++ s.dropWhile isWord := by
            rw [List.cons_append, List.takeWhile_append_dropWhile]
          rw [hs, Place.skip_append_rest, outcomes_brace]
          cases s.dropWhile isWord with
          | nil => rfl
          | cons d rest =>
              by_cases hd : d = '}'
              · rw [hd]
                rfl
              · rw [if_neg (by simpa using hd)]
                simp [hd]
        · intro v hv hne
          rcases Pattern.exists_member_of_prefix_takeWhile hv hne with ⟨d, t, hd, rfl⟩
          have hbrace : d ≠ '}' := by
            rintro rfl
            rw [WordClass.isWord_eq_false (by decide)] at hd
            cases hd
          rw [← List.cons_append, Place.skip_append_rest, outcomes_brace,
            if_neg (by simpa using hbrace)]
          rfl
      · have hchar : (Pattern.char isWord).outcomes ⟨b, c :: s⟩ = [] := by
          simp [Pattern.outcomes, hc]
        have hblock : (Pattern.group (.atLeastOnce (.char isWord))).outcomes ⟨b, c :: s⟩ = [] := by
          rw [Pattern.outcomes, Pattern.atLeastOnce, Pattern.outcomes_seq_of_eq_nil hchar,
            List.map_nil]
        simp only [readToken, Text.after?, List.takeWhile_cons_of_neg hc]
        exact Pattern.outcomes_seq_of_eq_nil hblock

/-- The pattern of tokens finds what is read as a token, and notes the name. -/
theorem reads_tokenPattern (start : List Char) :
    (tokenPattern start).Reads (token start) fun name => [name] := by
  rintro ⟨b, s⟩
  show ((tokenPattern start).outcomes ⟨b, s⟩).head? = (readToken start s).map _
  cases hstart : Text.after? start s with
  | none =>
      have hnot : ¬ start <+: s := by
        rw [← isSome_after?_iff, hstart]
        simp
      rw [tokenPattern, Pattern.outcomes_seq_of_eq_nil (Pattern.outcomes_word_of_not_prefix hnot),
        readToken, hstart]
      rfl
  | some body =>
      have hbody : readToken start s = readToken [] body := by
        rw [readToken, hstart]
        rfl
      have hs : s = start ++ body := Text.after?_eq_some_iff.1 hstart
      rw [hbody, hs, tokenPattern, Pattern.outcomes_seq_of_eq_singleton
        (Pattern.outcomes_word_of_prefix (List.prefix_append start body)), Place.skip_append_rest,
        outcomes_word_brace]
      cases readToken [] body with
      | none => rfl
      | some found => simp [Match.append, token, writeToken]

end

/-! ## Rewound lines -/

/-- Any text within a line. -/
def withinLine : Pattern := .many (.char (· != '\n'))

/-- A line with its newline. -/
def endedLine : Pattern := .seq withinLine (.char (· == '\n'))

/-- Rewinds and the rest of this many lines. -/
def overwritingPattern (lines : Nat) : Pattern :=
  .seq (.atLeastOnce (.word rewindText)) (.times lines endedLine)

/-- From a line start some text that is noted, rewinds, and the rest of this many lines. -/
def rewoundPattern (lines : Nat) : Pattern :=
  .seq .lineStart (.seq (.group withinLine) (overwritingPattern lines))

theorem forall_bne_newline {s : List Char} (hs : '\n' ∉ s) : ∀ c ∈ s, (c != '\n') = true := by
  intro c hc
  rw [bne_iff_ne]
  intro hnewline
  exact hs (hnewline ▸ hc)

/-- The first newline ends the line. -/
theorem takeWhile_line {line after : List Char} (hline : '\n' ∉ line) :
    (line ++ '\n' :: after).takeWhile (· != '\n') = line := by
  rw [List.takeWhile_append_of_pos (forall_bne_newline hline)]
  simp

/-- A line is taken up to where its newline should be. -/
theorem outcomes_endedLine_eq_map (b : Bool) (s : List Char) :
    endedLine.outcomes ⟨b, s⟩ =
      ((Pattern.char (· == '\n')).outcomes
        ((⟨b, s⟩ : Place).skip (s.takeWhile (· != '\n')))).map
          (Match.append ⟨s.takeWhile (· != '\n'), []⟩) := by
  apply Pattern.outcomes_seq_many_char
  intro b c s hc
  simp only [Pattern.outcomes]
  rw [if_neg (by simpa using hc)]

/-- A line that ends matches up to its newline. -/
theorem outcomes_endedLine {line : List Char} (hline : '\n' ∉ line) (b : Bool)
    (after : List Char) :
    endedLine.outcomes ⟨b, line ++ '\n' :: after⟩ = [⟨line ++ ['\n'], []⟩] := by
  rw [outcomes_endedLine_eq_map, takeWhile_line hline, Place.skip_append_rest]
  rfl

/-- The last line does not match if it is not ended. -/
theorem outcomes_endedLine_eq_nil {s : List Char} (hs : '\n' ∉ s) (b : Bool) :
    endedLine.outcomes ⟨b, s⟩ = [] := by
  have htake : s.takeWhile (· != '\n') = s :=
    List.takeWhile_eq_self_iff.2 (forall_bne_newline hs)
  rw [outcomes_endedLine_eq_map, htake]
  simp [Place.skip, Pattern.outcomes]

/-- Ended lines match in one way. -/
theorem outcomes_times_endedLine {lines : Nat} {text : List Char} (htext : IsLines lines text)
    (b : Bool) (rest : List Char) :
    (Pattern.times lines endedLine).outcomes ⟨b, text ++ rest⟩ = [⟨text, []⟩] := by
  induction lines generalizing b text with
  | zero =>
      rw [IsLines] at htext
      subst htext
      rfl
  | succ lines ih =>
      obtain ⟨line, after, rfl, hline, hafter⟩ := htext
      have hs : line ++ '\n' :: after ++ rest = line ++ ['\n'] ++ (after ++ rest) := by simp
      have hfirst := outcomes_endedLine hline b (after ++ rest)
      rw [List.append_assoc, List.cons_append, Pattern.times,
        Pattern.outcomes_seq_of_eq_singleton hfirst, ← List.cons_append, ← List.append_assoc, hs,
        Place.skip_append_rest, ih hafter]
      simp [Match.append]

/-- Too few newlines leave no way to match. -/
theorem outcomes_times_endedLine_eq_nil {lines : Nat} {s : List Char}
    (hs : s.count '\n' < lines) (b : Bool) :
    (Pattern.times lines endedLine).outcomes ⟨b, s⟩ = [] := by
  induction lines generalizing b s with
  | zero => cases hs
  | succ lines ih =>
      cases hbreak : breakLine? s with
      | none =>
          exact Pattern.outcomes_seq_of_eq_nil
            (outcomes_endedLine_eq_nil (breakLine?_eq_none_iff.1 hbreak) b)
      | some broken =>
          obtain ⟨line, after⟩ := broken
          obtain ⟨rfl, hline⟩ := breakLine?_eq_some_iff.1 hbreak
          have hcount : after.count '\n' < lines := by
            simpa [List.count_append, List.count_eq_zero.2 hline] using hs
          have hskip := Place.skip_append_rest b (line ++ ['\n']) after
          rw [List.append_assoc, List.singleton_append] at hskip
          rw [Pattern.times,
            Pattern.outcomes_seq_of_eq_singleton (outcomes_endedLine hline b after), hskip,
            ih hcount, List.map_nil]

/-- Nothing is overwritten where no rewind stands. -/
theorem outcomes_overwritingPattern_of_not_prefix {s : List Char} (h : ¬ rewindText <+: s)
    (lines : Nat) (b : Bool) : (overwritingPattern lines).outcomes ⟨b, s⟩ = [] :=
  Pattern.outcomes_seq_of_eq_nil
    (Pattern.outcomes_seq_of_eq_nil (Pattern.outcomes_word_of_not_prefix h))

/-- Nothing is overwritten where too few lines are ended. -/
theorem outcomes_overwritingPattern_eq_nil {lines : Nat} {s : List Char}
    (hs : s.count '\n' < lines) (b : Bool) :
    (overwritingPattern lines).outcomes ⟨b, s⟩ = [] := by
  rw [overwritingPattern, Pattern.outcomes, List.flatMap_eq_nil_iff]
  intro m hm
  obtain ⟨t, ht⟩ := Pattern.prefix_of_mem_outcomes hm
  have hcount : t.count '\n' < lines :=
    lt_of_le_of_lt ((List.IsSuffix.sublist ⟨m.text, ht⟩).count_le '\n') hs
  have hs : s = m.text ++ t := ht.symm
  rw [hs, Pattern.Place.skip_append_rest, outcomes_times_endedLine_eq_nil hcount, List.map_nil]

/-- A single rewind and ended lines behind it match in one way. -/
theorem outcomes_overwritingPattern {lines : Nat} {text rest : List Char}
    (htext : IsLines lines text) (hlast : ¬ rewindText <+: text ++ rest) (b : Bool) :
    (overwritingPattern lines).outcomes ⟨b, rewindText ++ (text ++ rest)⟩ =
      [⟨rewindText ++ text, []⟩] := by
  have honce : (Pattern.atLeastOnce (.word rewindText)).outcomes
      ⟨b, rewindText ++ (text ++ rest)⟩ = [⟨rewindText, []⟩] := by
    rw [Pattern.atLeastOnce, Pattern.outcomes_seq_of_eq_singleton
      (Pattern.outcomes_word_of_prefix (List.prefix_append _ _)), Place.skip_append_rest,
      Pattern.outcomes_many, Pattern.outcomes_word_of_not_prefix hlast]
    rfl
  rw [overwritingPattern, Pattern.outcomes_seq_of_eq_singleton honce, Place.skip_append_rest,
    outcomes_times_endedLine htext]
  rfl

/-! ## Matches of the rewound pattern -/

/-- The text of a rewound line: up to the last rewind of the line it is kept; the rest of the line
is swallowed, and so are this many lines behind it. -/
def IsRewound (more : Nat) (start text : List Char) : Prop :=
  ∃ line after, text = start ++ rewindText ++ line ++ '\n' :: after ∧ '\n' ∉ start ∧
    '\n' ∉ line ∧ ¬ rewindText <:+: line ∧ IsLines more after

theorem newline_not_mem_rewindText : '\n' ∉ rewindText := by
  decide

/-- Behind its first character a last rewind is followed by no other. -/
theorem not_infix_tail_rewindText_iff {line : List Char} :
    ¬ rewindText <:+: (rewindText ++ line).tail ↔ ¬ rewindText <:+: line := by
  have htail : (rewindText ++ line).tail = ['{', 'u', 'p', '}'] ++ line := rfl
  rw [htail]
  refine not_congr ⟨fun h => infix_of_infix_append (by decide) h, fun h => ?_⟩
  exact h.trans (List.suffix_append ['{', 'u', 'p', '}'] line).isInfix

theorem outcomes_rewoundPattern (lines : Nat) {line after : List Char} (hline : '\n' ∉ line) :
    (rewoundPattern lines).outcomes ⟨true, line ++ '\n' :: after⟩ =
      line.inits.reverse.flatMap fun u =>
        ((overwritingPattern lines).outcomes
          ((⟨true, line ++ '\n' :: after⟩ : Place).skip u)).map (Match.append ⟨u, [u]⟩) := by
  have hstart : Pattern.lineStart.outcomes ⟨true, line ++ '\n' :: after⟩ = [Match.empty] := rfl
  rw [rewoundPattern, Pattern.outcomes_seq_of_eq_singleton hstart]
  simp only [Match.empty, Place.skip_nil]
  rw [Pattern.outcomes, Pattern.outcomes, withinLine, Pattern.outcomes_many_char,
    takeWhile_line hline, List.map_map, List.flatMap_map]
  exact List.map_id _

/-- A rewound line is the preferred match where it stands. -/
theorem firstMatch?_rewoundPattern {more : Nat} {start text : List Char}
    (h : IsRewound more start text) (rest : List Char) :
    (rewoundPattern (more + 1)).firstMatch? ⟨true, text ++ rest⟩ = some ⟨text, [start]⟩ := by
  obtain ⟨line, after, rfl, hstart, hline, hlast, hafter⟩ := h
  have hwhole : '\n' ∉ start ++ (rewindText ++ line) := by
    simp only [List.mem_append, not_or]
    exact ⟨hstart, newline_not_mem_rewindText, hline⟩
  have hswallowed : IsLines (more + 1) (line ++ '\n' :: after) :=
    ⟨line, after, rfl, hline, hafter⟩
  have htext : start ++ rewindText ++ line ++ '\n' :: after ++ rest =
      start ++ (rewindText ++ line) ++ '\n' :: (after ++ rest) := by simp
  rw [Pattern.firstMatch?, htext, outcomes_rewoundPattern _ hwhole]
  apply Pattern.head?_flatMap_reverse_inits (List.prefix_append start _)
  · have hnot : ¬ rewindText <+: line ++ '\n' :: after ++ rest := by
      intro hprefix
      rw [List.append_assoc, List.cons_append] at hprefix
      have hfront : rewindText <+: line := prefix_line newline_not_mem_rewindText hprefix
      exact hlast hfront.isInfix
    have hbehind : start ++ (rewindText ++ line) ++ '\n' :: (after ++ rest) =
        start ++ (rewindText ++ (line ++ '\n' :: after ++ rest)) := by simp
    rw [hbehind, Place.skip_append_rest, outcomes_overwritingPattern hswallowed hnot]
    simp [Match.append]
  · -- A later rewind in the line would contradict the choice of the last one.
    intro v hv hlonger
    obtain ⟨w, hw⟩ := hv
    rw [← hw, List.append_assoc, Place.skip_append_rest,
      outcomes_overwritingPattern_of_not_prefix, List.map_nil]
    intro hrewind
    have hbehind := prefix_line newline_not_mem_rewindText hrewind
    obtain ⟨x, hx⟩ : ∃ x, v = start ++ x :=
      ⟨v.drop start.length, (List.prefix_iff_eq_append.1
        (List.prefix_of_prefix_length_le (List.prefix_append start _) ⟨w, hw⟩ hlonger.le)).symm⟩
    subst hx
    rw [List.append_assoc, List.append_cancel_left_eq] at hw
    cases x with
    | nil => simp at hlonger
    | cons c x =>
        apply not_infix_tail_rewindText_iff.2 hlast
        rw [← hw, List.cons_append, List.tail_cons]
        exact hbehind.isInfix.trans (List.suffix_append x w).isInfix

theorem outcomes_rewoundPattern_eq_nil {lines : Nat} {s : List Char}
    (hs : s.count '\n' < lines) (b : Bool) : (rewoundPattern lines).outcomes ⟨b, s⟩ = [] := by
  cases b with
  | false => exact Pattern.outcomes_seq_of_eq_nil rfl
  | true =>
      have hstart : Pattern.lineStart.outcomes ⟨true, s⟩ = [Match.empty] := rfl
      rw [rewoundPattern, Pattern.outcomes_seq_of_eq_singleton hstart, List.map_eq_nil_iff,
        Pattern.outcomes, List.flatMap_eq_nil_iff]
      intro m hm
      obtain ⟨t, rfl⟩ := Pattern.prefix_of_mem_outcomes hm
      have hcount : t.count '\n' < lines :=
        lt_of_le_of_lt ((List.suffix_append m.text t).sublist.count_le '\n') hs
      show ((overwritingPattern lines).outcomes
        ((⟨true, m.text ++ t⟩ : Place).skip m.text)).map m.append = []
      rw [Place.skip_append_rest, outcomes_overwritingPattern_eq_nil hcount, List.map_nil]

/-- Nothing matches from the start of a line without a rewind on. -/
theorem firstMatch?_rewoundPattern_eq_none {line : List Char} (hline : '\n' ∉ line)
    (hno : ¬ rewindText <:+: line) (after : List Char) (lines : Nat) :
    (rewoundPattern lines).firstMatch? ⟨true, line ++ '\n' :: after⟩ = none := by
  rw [Pattern.firstMatch?, outcomes_rewoundPattern lines hline,
    Pattern.flatMap_reverse_inits_eq_nil]
  · rfl
  · intro v hv
    rcases hv with ⟨w, rfl⟩
    rw [List.append_assoc, Place.skip_append_rest, outcomes_overwritingPattern_of_not_prefix,
      List.map_nil]
    intro hrewind
    have hbehind := prefix_line newline_not_mem_rewindText hrewind
    exact hno (hbehind.isInfix.trans (List.suffix_append v w).isInfix)

/-- A line with a rewind and the ended lines behind it are a rewound line. -/
theorem isRewound_of_beforeLast? {more : Nat} {line start after : List Char}
    (hline : '\n' ∉ line) (hlast : beforeLast? rewindText line = some start)
    (hafter : IsLines more after) : IsRewound more start (line ++ '\n' :: after) := by
  rcases eq_append_of_beforeLast? (by decide) hlast with ⟨behind, rfl, htail⟩
  simp only [List.mem_append, not_or] at hline
  exact ⟨behind, after, rfl, hline.1.1, hline.2, not_infix_tail_rewindText_iff.1 htail, hafter⟩

/-- The search finds a rewound line exactly where one stands from a line start on. -/
theorem firstMatch?_rewoundPattern_eq_some_iff {more : Nat} {place : Place} {m : Match} :
    (rewoundPattern (more + 1)).firstMatch? place = some m ↔
      place.atLineStart = true ∧ m.text <+: place.rest ∧
        ∃ start, m.groups = [start] ∧ IsRewound more start m.text := by
  obtain ⟨b, s⟩ := place
  constructor
  · intro hfirst
    cases b with
    | false =>
        rw [Pattern.firstMatch?, rewoundPattern, Pattern.outcomes_seq_of_eq_nil rfl] at hfirst
        cases hfirst
    | true =>
        refine ⟨rfl, Pattern.prefix_of_mem_outcomes (List.mem_of_head? hfirst), ?_⟩
        cases hlines : afterLines? (more + 1) s with
        | none =>
            rw [Pattern.firstMatch?,
              outcomes_rewoundPattern_eq_nil (afterLines?_eq_none_iff.1 hlines)] at hfirst
            cases hfirst
        | some rest =>
            rcases afterLines?_eq_some_iff.1 hlines with
              ⟨text, rfl, line, after, rfl, hline, hafter⟩
            cases hlast : beforeLast? rewindText line with
            | none =>
                have hno := not_infix_of_beforeLast?_eq_none (by decide) hlast
                rw [List.append_assoc, List.cons_append,
                  firstMatch?_rewoundPattern_eq_none hline hno] at hfirst
                cases hfirst
            | some start =>
                have hrewound := isRewound_of_beforeLast? hline hlast hafter
                rw [firstMatch?_rewoundPattern hrewound rest] at hfirst
                cases hfirst
                exact ⟨start, rfl, hrewound⟩
  · rintro ⟨hb, ⟨rest, hrest⟩, start, hgroups, hrewound⟩
    obtain ⟨text, groups⟩ := m
    dsimp only at hb hrest hgroups hrewound
    subst hb hrest hgroups
    exact firstMatch?_rewoundPattern hrewound rest

/-! ## The line loop -/

/-- The text of the first group. -/
def firstGroup (m : Match) : List Char := m.groups.headD []

/-- A line without a match at its start is passed over. -/
theorem scan_rewoundPattern_line {lines : Nat} {b : Bool} {line after : List Char}
    (hline : '\n' ∉ line)
    (hfirst : (rewoundPattern lines).firstMatch? ⟨b, line ++ '\n' :: after⟩ = none) :
    (rewoundPattern lines).scan ⟨b, line ++ '\n' :: after⟩ =
      (line ++ ['\n']).map Sum.inl ++ (rewoundPattern lines).scan ⟨true, after⟩ := by
  induction line generalizing b with
  | nil => exact Pattern.scan_cons_of_firstMatch?_eq_none hfirst
  | cons c line ih =>
      simp only [List.mem_cons, not_or] at hline
      have hc : (c == '\n') = false := beq_false_of_ne (Ne.symm hline.1)
      rw [List.cons_append] at hfirst ⊢
      rw [Pattern.scan_cons_of_firstMatch?_eq_none hfirst, hc, ih hline.2 rfl]
      rfl

theorem replaceAll_rewoundPattern_line {line : List Char} (hline : '\n' ∉ line)
    (hno : ¬ rewindText <:+: line) (after : List Char) (lines : Nat) :
    (rewoundPattern lines).replaceAll firstGroup (line ++ '\n' :: after) =
      line ++ '\n' :: (rewoundPattern lines).replaceAll firstGroup after := by
  have hfirst := firstMatch?_rewoundPattern_eq_none hline hno after lines
  rw [Pattern.replaceAll, scan_rewoundPattern_line hline hfirst, List.flatMap_append,
    Lexeme.flatMap_item_map_inl, List.append_assoc, List.singleton_append]
  rfl

/-- Where too few lines are ended nothing is replaced any more. -/
theorem replaceAll_rewoundPattern_eq_self {lines : Nat} {s : List Char}
    (hs : s.count '\n' < lines) :
    (rewoundPattern lines).replaceAll firstGroup s = s := by
  have hscan (b : Bool) : (rewoundPattern lines).scan ⟨b, s⟩ = s.map Sum.inl := by
    induction s generalizing b with
    | nil => exact Pattern.scan_nil _ b
    | cons c s ih =>
        have hfirst : (rewoundPattern lines).firstMatch? ⟨b, c :: s⟩ = none := by
          rw [Pattern.firstMatch?, outcomes_rewoundPattern_eq_nil hs]
          rfl
        have hfewer : s.count '\n' < lines :=
          lt_of_le_of_lt ((List.sublist_cons_self c s).count_le '\n') hs
        rw [Pattern.scan_cons_of_firstMatch?_eq_none hfirst, ih hfewer]
        rfl
  rw [Pattern.replaceAll, hscan, Lexeme.flatMap_item_map_inl]

/-- A rewound line is replaced by its start, and the search goes on at the line start behind. -/
theorem replaceAll_rewoundPattern_of_isRewound {more : Nat} {start text : List Char}
    (h : IsRewound more start text) (rest : List Char) :
    (rewoundPattern (more + 1)).replaceAll firstGroup (text ++ rest) =
      start ++ (rewoundPattern (more + 1)).replaceAll firstGroup rest := by
  have hne : text ≠ [] := by
    intro hnil
    rcases h with ⟨line, after, htext, -⟩
    rw [hnil] at htext
    simp at htext
  have hnewline : text.foldl (fun _ c => c == '\n') true = true := by
    rcases h with ⟨line, after, rfl, -, -, -, hafter⟩
    rw [List.foldl_append, List.foldl_cons]
    exact hafter.foldl_newline
  rw [Pattern.replaceAll,
    Pattern.scan_append_of_firstMatch? hne (firstMatch?_rewoundPattern h rest), hnewline]
  rfl

/-- The loop replaces exactly the matches from a line start on, unless it looks no further. It does
so only where too few lines are ended for another match. -/
theorem dropRewoundFrom_eq (more : Nat) (exhausted : Bool) (s : List Char) :
    dropRewoundFrom (more + 1) exhausted s =
      if exhausted then s else (rewoundPattern (more + 1)).replaceAll firstGroup s := by
  fun_induction dropRewoundFrom (more + 1) exhausted s with
  | case1 exhausted s hbreak =>
      have hzero := List.count_eq_zero.2 (breakLine?_eq_none_iff.1 hbreak)
      rw [replaceAll_rewoundPattern_eq_self (by omega), ite_self]
  | case2 exhausted s line after hbreak hlast ih =>
      rcases breakLine?_eq_some_iff.1 hbreak with ⟨rfl, hline⟩
      rw [ih]
      cases exhausted with
      | true => rfl
      | false =>
          have hno := not_infix_of_beforeLast?_eq_none (by decide) hlast
          exact (replaceAll_rewoundPattern_line hline hno after (more + 1)).symm
  | case3 exhausted s line after hbreak start hlast rest hafter ih =>
      rcases breakLine?_eq_some_iff.1 hbreak with ⟨rfl, hline⟩
      rcases afterLines?_eq_some_iff.1 hafter with ⟨swallowed, rfl, hswallowed⟩
      cases exhausted with
      | true => cases hlast
      | false =>
          have hrewound := isRewound_of_beforeLast? hline hlast hswallowed
          have hreplaced := replaceAll_rewoundPattern_of_isRewound hrewound rest
          rw [List.append_assoc, List.cons_append] at hreplaced
          rw [ih]
          exact hreplaced.symm
  | case4 exhausted s line after hbreak start hlast hafter ih =>
      rcases breakLine?_eq_some_iff.1 hbreak with ⟨rfl, hline⟩
      have hfew : (line ++ '\n' :: after).count '\n' < more + 1 := by
        have hcount := afterLines?_eq_none_iff.1 hafter
        simpa [List.count_append, List.count_eq_zero.2 hline] using hcount
      rw [ih, replaceAll_rewoundPattern_eq_self hfew, ite_self, if_pos rfl]

/-! ## Plain text -/

variable [WordClass]

/-- Plain text is what three searches leave, one behind the other: rewound lines are cut at their
last rewind, each swallowing as many lines as the whole text has rewinds, then background tokens are
deleted, then all others. The line loop by itself replaces the matches of the rewound pattern for
every number of lines, and these are the ended lines from a line start on with a rewind in the
first. -/
theorem plain_eq_replaceAll :
    (∀ s, plain s =
      (tokenPattern opening).replaceAll (fun _ => [])
        ((tokenPattern backgroundOpening).replaceAll (fun _ => [])
          ((rewoundPattern (max 1 ((Pattern.word rewindText).count s))).replaceAll
            firstGroup s))) ∧
    (∀ more s, dropRewound (more + 1) s =
      (rewoundPattern (more + 1)).replaceAll firstGroup s) ∧
    (∀ more place m, (rewoundPattern (more + 1)).firstMatch? place = some m ↔
      place.atLineStart = true ∧ m.text <+: place.rest ∧
        ∃ start, m.groups = [start] ∧ IsRewound more start m.text) := by
  have hloop (more : Nat) (s : List Char) : dropRewound (more + 1) s =
      (rewoundPattern (more + 1)).replaceAll firstGroup s := dropRewoundFrom_eq more false s
  refine ⟨fun s => ?_, hloop, fun _ _ _ => firstMatch?_rewoundPattern_eq_some_iff⟩
  have hlines : rewoundLines s = max 1 ((Pattern.word rewindText).count s) := by
    rw [rewoundLines, (Pattern.reads_word (by decide)).count_eq]
    rfl
  obtain ⟨more, hmore⟩ : ∃ more, max 1 ((Pattern.word rewindText).count s) = more + 1 :=
    Nat.exists_eq_add_of_le' (le_max_left 1 _)
  rw [plain, deleteTokens, hlines, hmore, (reads_tokenPattern opening).replaceAll_eq,
    (reads_tokenPattern backgroundOpening).replaceAll_eq, hloop]
  rfl

end TerminalDecoration.Markup
