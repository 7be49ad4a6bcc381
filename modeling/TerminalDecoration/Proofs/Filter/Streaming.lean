/-
# Writing line by line

A filter renders each write by itself, so what it makes of a text could depend on how the text is
cut into writes. It does not where the cuts are behind newlines. No token and no select sequence
holds a newline, so every pass over the text works on its lines one by one. The merge of the first
run is the only step that looks further: it merges one run of a whole write, and so merges more when
there are more writes. A terminal reads the same either way.
-/

import TerminalDecoration.Filter
import TerminalDecoration.Proofs.Control.Event
import TerminalDecoration.Proofs.Markup.KnownToken
import TerminalDecoration.Proofs.Markup.Nesting
import TerminalDecoration.Proofs.Sink.Tape
import TerminalDecoration.Proofs.Text.Utf8

namespace TerminalDecoration

open Text (Lexeme)

/-! ## Texts of whole lines -/

namespace Text

/-- The last line of the text is ended by a newline. -/
def IsEnded (s : List Char) : Prop := ∃ line, s = line ++ ['\n']

/-- What is made of a text is made of its lines one by one. -/
structure IsLinewise {β : Type} (f : List Char → List β) : Prop where
  nil : f [] = []
  append : ∀ {s : List Char}, IsEnded s → ∀ t, f (s ++ t) = f s ++ f t

namespace IsLinewise

variable {β : Type} {f : List Char → List β}

/-- It is enough that a newline becomes the same wherever it stands. -/
theorem of_newline (newline : List β) (nil : f [] = [])
    (h : ∀ s t, f (s ++ '\n' :: t) = f s ++ (newline ++ f t)) : IsLinewise f where
  nil := nil
  append := by
    rintro s ⟨line, rfl⟩ t
    have hline : f (line ++ ['\n']) = f line ++ newline := by
      rw [h line [], nil, List.append_nil]
    rw [List.append_assoc, List.singleton_append, h line t, hline, List.append_assoc]

theorem flatten (hf : IsLinewise f) {texts : List (List Char)} (htexts : ∀ s ∈ texts, IsEnded s) :
    f texts.flatten = (texts.map f).flatten := by
  induction texts with
  | nil => exact hf.nil
  | cons s texts ih =>
      rw [List.forall_mem_cons] at htexts
      rw [List.flatten_cons, hf.append htexts.1, ih htexts.2, List.map_cons, List.flatten_cons]

end IsLinewise

/-- A substitution works line by line if the lexeme holds no newline. -/
theorem Lexeme.IsDelimited.isLinewise_substitute {α : Type} {l : Lexeme α} (hdel : l.IsDelimited)
    (havoid : l.Avoids '\n') (g : α → List Char) : IsLinewise (l.substitute g) :=
  .of_newline ['\n'] (l.substitute_nil g) (hdel.substitute_append_avoided havoid g)

theorem Lexeme.IsDelimited.isLinewise_occurrences {α : Type} {l : Lexeme α}
    (hdel : l.IsDelimited) (havoid : l.Avoids '\n') : IsLinewise l.occurrences :=
  .of_newline [] l.occurrences_nil (hdel.occurrences_append_avoided havoid)

theorem Lexeme.IsDelimited.isEnded_substitute {α : Type} {l : Lexeme α} (hdel : l.IsDelimited)
    (havoid : l.Avoids '\n') (g : α → List Char) {s : List Char} (hs : IsEnded s) :
    IsEnded (l.substitute g s) := by
  obtain ⟨line, rfl⟩ := hs
  exact ⟨l.substitute g line, by rw [hdel.substitute_append_avoided havoid, l.substitute_nil]⟩

end Text

open Text (IsEnded IsLinewise)

/-! ## Select sequences -/

namespace Control

theorem newline_not_mem_select {ps : List (List Char)} (hps : ∀ p ∈ ps, IsParameter p) :
    '\n' ∉ select ps := by
  have hparameters : '\n' ∉ List.intercalate [';'] ps :=
    not_mem_intercalate (by decide) (by decide) hps
  simp [select, escape, hparameters]

theorem avoids_newline_sequence : sequence.Avoids '\n' := by
  intro s ps rest hread
  exact newline_not_mem_select (sequence_read_eq_some_iff.1 hread).1.2

theorem newline_not_mem_writeSingles {ps : List (List Char)} (hps : ∀ p ∈ ps, IsParameter p) :
    '\n' ∉ writeSingles ps := by
  intro hmem
  obtain ⟨p, hp, hselect⟩ := List.mem_flatMap.1 hmem
  exact newline_not_mem_select (List.forall_mem_singleton.2 (hps p hp)) hselect

/-- A terminal reads a text line by line. -/
theorem isLinewise_events : IsLinewise events := by
  apply IsLinewise.of_newline [.char '\n']
  · rw [events, sequence.scan_nil, List.flatMap_nil]
  · intro s t
    rw [events, isDelimited_sequence.scan_append_avoided avoids_newline_sequence,
      List.flatMap_append, List.flatMap_cons]
    rfl

/-- Merging leaves the last newline where it is. -/
theorem isEnded_mergeFirstRun {s : List Char} (hs : IsEnded s) : IsEnded (mergeFirstRun s) := by
  obtain hself | ⟨ps, hps, hmerged⟩ := mergeFirstRun_eq_self_or s
  · rw [hself]
    exact hs
  · have hnewline : '\n' ∉ writeSingles ps := newline_not_mem_writeSingles hps.2
    rw [hmerged]
    exact (Lexeme.isDelimited_word _).isEnded_substitute (Lexeme.avoids_word hnewline) _ hs

end Control

/-! ## Markup -/

namespace Markup

open Control (events)

theorem avoids_newline_token [Text.WordClass] {start : List Char}
    (hstart : start ∈ [opening, backgroundOpening]) : (token start).Avoids '\n' := by
  intro s name rest hread
  have htoken : IsToken (writeToken start name) :=
    ⟨start, hstart, name, (token_read_eq_some_iff.1 hread).1, rfl⟩
  exact htoken.newline_not_mem

theorem avoids_newline_knownToken : knownToken.Avoids '\n' := by
  have hall : ∀ a ∈ Attribute.all, '\n' ∉ a.token := by decide
  intro s a rest _
  exact hall a a.mem_all

theorem isLinewise_substituteKnown : IsLinewise substituteKnown :=
  isDelimited_knownToken.isLinewise_substitute avoids_newline_knownToken Attribute.code

theorem isEnded_substituteKnown {s : List Char} (hs : IsEnded s) : IsEnded (substituteKnown s) :=
  isDelimited_knownToken.isEnded_substitute avoids_newline_knownToken Attribute.code hs

section

variable [Text.WordClass]

theorem isEnded_resolve {s : List Char} (hs : IsEnded s) : IsEnded (resolve s) := by
  rw [resolve_eq_mergeFirstRun]
  exact Control.isEnded_mergeFirstRun (isEnded_substituteKnown hs)

theorem events_resolve (s : List Char) : events (resolve s) = events (substituteKnown s) := by
  rw [resolve_eq_mergeFirstRun]
  obtain hself | ⟨ps, hps, hmerged⟩ := Control.mergeFirstRun_eq_self_or (substituteKnown s)
  · rw [hself]
  · rw [hmerged, Control.events_substitute_writeSingles hps]

/-- A terminal reads the same from lines that were resolved one by one and from lines that were
resolved together. -/
theorem events_flatten_map_resolve {texts : List (List Char)}
    (htexts : ∀ s ∈ texts, IsEnded s) :
    events (texts.map resolve).flatten = events (resolve texts.flatten) := by
  have hresolved : ∀ s ∈ texts.map resolve, IsEnded s :=
    List.forall_mem_map.2 fun s hs => isEnded_resolve (htexts s hs)
  have hknown : ∀ s ∈ texts.map substituteKnown, IsEnded s :=
    List.forall_mem_map.2 fun s hs => isEnded_substituteKnown (htexts s hs)
  calc events (texts.map resolve).flatten
      = ((texts.map resolve).map events).flatten := Control.isLinewise_events.flatten hresolved
    _ = ((texts.map substituteKnown).map events).flatten := by
      simp only [List.map_map, Function.comp_def, events_resolve]
    _ = events (texts.map substituteKnown).flatten :=
      (Control.isLinewise_events.flatten hknown).symm
    _ = events (resolve texts.flatten) := by
      rw [← isLinewise_substituteKnown.flatten htexts, events_resolve]

theorem isLinewise_deleteTokens : IsLinewise deleteTokens := by
  have hbackground : backgroundToken.Avoids '\n' := avoids_newline_token (by simp)
  have hforeground : foregroundToken.Avoids '\n' := avoids_newline_token (by simp)
  apply IsLinewise.of_newline ['\n']
  · rw [deleteTokens, backgroundToken.substitute_nil, foregroundToken.substitute_nil]
  · intro s t
    rw [deleteTokens, isDelimited_backgroundToken.substitute_append_avoided hbackground]
    exact isDelimited_foregroundToken.substitute_append_avoided hforeground _ _ _

/-- No rewind comes up where lines without one are put together. -/
theorem not_infix_rewindText_flatten {texts : List (List Char)}
    (htexts : ∀ s ∈ texts, IsEnded s) (hrewind : ∀ s ∈ texts, ¬ rewindText <:+: s) :
    ¬ rewindText <:+: texts.flatten := by
  have hne : rewindText ≠ [] := by decide
  have hlinewise : IsLinewise rewindToken.occurrences :=
    (Lexeme.isDelimited_word rewindText).isLinewise_occurrences
      (Lexeme.avoids_word isToken_rewindText.newline_not_mem)
  have hnone : rewindToken.occurrences texts.flatten = [] := by
    rw [hlinewise.flatten htexts, List.flatten_eq_nil_iff, List.forall_mem_map]
    exact fun s hs => (Lexeme.word_occurrences_eq_nil_iff hne).2 (hrewind s hs)
  exact (Lexeme.word_occurrences_eq_nil_iff hne).1 hnone

/-- Without rewinds the same is left of lines one by one and of lines together. -/
theorem flatten_map_plain {texts : List (List Char)} (htexts : ∀ s ∈ texts, IsEnded s)
    (hrewind : ∀ s ∈ texts, ¬ rewindText <:+: s) :
    (texts.map plain).flatten = plain texts.flatten := by
  have hplain : texts.map plain = texts.map deleteTokens :=
    List.map_congr_left fun s hs => plain_eq_deleteTokens (hrewind s hs)
  rw [plain_eq_deleteTokens (not_infix_rewindText_flatten htexts hrewind), hplain,
    isLinewise_deleteTokens.flatten htexts]

end

end Markup

/-! ## Through a filter -/

namespace Filter

open Text.Utf8 (encode)

/-- Delivers texts through a filter, each in a write of its own, as long as all goes well. -/
def deliverEach (mode : Mode) : List (List Char) → Sink → Delivery × Sink
  | [], sink => (.done, sink)
  | s :: texts, sink =>
    match deliverText mode s sink with
    | (.done, sink) => deliverEach mode texts sink
    | other => other

theorem deliverEach_cons_of_done {mode : Mode} {s : List Char} {texts : List (List Char)}
    {sink : Sink} (h : (deliverText mode s sink).1 = .done) :
    deliverEach mode (s :: texts) sink = deliverEach mode texts (deliverText mode s sink).2 := by
  rw [deliverEach]
  split
  · rename_i heq
    rw [heq]
  · rename_i hother
    exact (hother _ (Prod.ext h rfl)).elim

theorem deliverText_of_deliverEach_cons {mode : Mode} {s : List Char} {texts : List (List Char)}
    {sink : Sink} (h : (deliverEach mode (s :: texts) sink).1 = .done) :
    (deliverText mode s sink).1 = .done := by
  rw [deliverEach] at h
  split at h
  · rename_i heq
    rw [heq]
  · exact h

/-- When all goes well a sink gets every text as the filter renders it, one behind the other. -/
theorem taken_deliverEach_of_done {mode : Mode} {texts : List (List Char)} {sink : Sink}
    (h : (deliverEach mode texts sink).1 = .done) :
    (deliverEach mode texts sink).2.taken =
      sink.taken ++ encode (texts.map mode.apply).flatten := by
  induction texts generalizing sink with
  | nil => exact (List.append_nil _).symm
  | cons s texts ih =>
      have hfirst := deliverText_of_deliverEach_cons h
      rw [deliverEach_cons_of_done hfirst] at h ⊢
      rw [ih h, deliverText, Sink.taken_deliver_of_done hfirst, List.append_assoc,
        ← Text.Utf8.encode_append, List.map_cons, List.flatten_cons]

/-- It does not matter how lines are grouped into writes. From lines that were resolved one by one
a terminal reads the same as from lines that were resolved together, and of lines without a rewind
the same text is left. A sink on which all goes well gets what the filter makes of each line, or of
all of them, and nothing else. So it gets a text of the same reading through a resolving filter, and
the same bytes through a plain one, whether the lines are written one at a time or all at once. -/
theorem lines_independent_of_grouping {texts : List (List Char)} (htexts : ∀ s ∈ texts, IsEnded s) :
    Control.events (texts.map Markup.resolve).flatten =
        Control.events (Markup.resolve texts.flatten) ∧
      ((∀ s ∈ texts, ¬ Markup.rewindText <:+: s) →
        (texts.map Markup.plain).flatten = Markup.plain texts.flatten) ∧
      ∀ sink : Sink,
        (∀ mode, (deliverEach mode texts sink).1 = .done →
          (deliverEach mode texts sink).2.taken =
            sink.taken ++ encode (texts.map mode.apply).flatten) ∧
        (∀ mode, (deliverText mode texts.flatten sink).1 = .done →
          (deliverText mode texts.flatten sink).2.taken =
            sink.taken ++ encode (mode.apply texts.flatten)) ∧
        ((deliverEach .resolve texts sink).1 = .done →
          (deliverText .resolve texts.flatten sink).1 = .done →
          ∃ each once, Control.events each = Control.events once ∧
            (deliverEach .resolve texts sink).2.taken = sink.taken ++ encode each ∧
            (deliverText .resolve texts.flatten sink).2.taken = sink.taken ++ encode once) ∧
        ((∀ s ∈ texts, ¬ Markup.rewindText <:+: s) →
          (deliverEach .plain texts sink).1 = .done →
          (deliverText .plain texts.flatten sink).1 = .done →
          (deliverEach .plain texts sink).2.taken =
            (deliverText .plain texts.flatten sink).2.taken) := by
  have hevents := Markup.events_flatten_map_resolve htexts
  refine ⟨hevents, Markup.flatten_map_plain htexts, fun sink => ?_⟩
  have heach (mode : Mode) (h : (deliverEach mode texts sink).1 = .done) :=
    taken_deliverEach_of_done h
  have honce (mode : Mode) (h : (deliverText mode texts.flatten sink).1 = .done) :=
    Sink.taken_deliver_of_done h
  refine ⟨heach, honce, fun hdone hdone' => ?_, fun hrewind hdone hdone' => ?_⟩
  · exact ⟨_, _, hevents, heach .resolve hdone, honce .resolve hdone'⟩
  · calc (deliverEach .plain texts sink).2.taken
        = sink.taken ++ encode (texts.map Markup.plain).flatten := heach .plain hdone
      _ = sink.taken ++ encode (Markup.plain texts.flatten) := by
          rw [Markup.flatten_map_plain htexts hrewind]
      _ = (deliverText .plain texts.flatten sink).2.taken := (honce .plain hdone').symm

/-- Two lines with a run each: resolved together, only the first run is merged. -/
def twoRuns : List (List Char) :=
  ["#{bold}#{red}a\n".toList, "#{blue}#{italic}b\n".toList]

theorem twoRuns_isEnded : ∀ s ∈ twoRuns, IsEnded s :=
  List.forall_mem_cons.2 ⟨⟨"#{bold}#{red}a".toList, by decide +kernel⟩,
    List.forall_mem_singleton.2 ⟨"#{blue}#{italic}b".toList, by decide +kernel⟩⟩

theorem lines_independent_of_grouping_twoRuns :
    (∀ s ∈ twoRuns, IsEnded s) ∧ (∀ s ∈ twoRuns, ¬ Markup.rewindText <:+: s) ∧
      (twoRuns.map Markup.resolve).flatten ≠ Markup.resolve twoRuns.flatten ∧
      Control.events (twoRuns.map Markup.resolve).flatten =
        Control.events (Markup.resolve twoRuns.flatten) ∧
      (twoRuns.map Markup.plain).flatten = Markup.plain twoRuns.flatten ∧
      (deliverEach .plain twoRuns (.memory [])).2.taken =
        (deliverText .plain twoRuns.flatten (.memory [])).2.taken := by
  have hrewind : ∀ s ∈ twoRuns, ¬ Markup.rewindText <:+: s := by decide +kernel
  obtain ⟨hevents, hplain, hsinks⟩ := lines_independent_of_grouping twoRuns_isEnded
  exact ⟨twoRuns_isEnded, hrewind, by decide +kernel, hevents, hplain hrewind,
    (hsinks (.memory [])).2.2.2 hrewind rfl rfl⟩

end Filter

end TerminalDecoration
