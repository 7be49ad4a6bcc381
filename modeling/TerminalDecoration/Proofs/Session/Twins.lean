/-
# Twin consoles

Twins are two consoles of one session that were opened alike, except that one decorates and the
other does not, each with a memory of its own. Told the same, both have the same journal, and so
they answer alike, and the two memories show the same text: the plain one keeps what the other keeps
without its select sequences. It does not matter in which order the twins are told it, nor what the
session did before.
-/

import Mathlib.Logic.Pairwise
import TerminalDecoration.Log.PlainTimes
import TerminalDecoration.Proofs.Control.Erasure
import TerminalDecoration.Proofs.Session.Journal

namespace TerminalDecoration.Session

open Control (escape single sequence)

/-! ## Twins and what they are told -/

/-- One of the twins, known by its palette, is told something. -/
structure Turn where
  palette : Palette
  action : Action

/-- The command that tells it. -/
def Turn.command (sites : Palette → Site) (turn : Turn) : Command :=
  turn.action.command (sites turn.palette)

/-- All that the twin with this palette is told. -/
def told (palette : Palette) (turns : List Turn) : List Action :=
  (turns.filter fun turn => turn.palette = palette).map Turn.action

/-- The site at which everything bears this name. -/
def Site.named (name : String) : Site where
  console := name
  sink := .named name
  stencil slot := name ++ slot
  stencil_injective _ _ h := (String.append_right_inj name).1 h

theorem Site.isApart_named {name name' : String} (hlength : name.length = name'.length)
    (hne : name ≠ name') : (named name).IsApart (named name') where
  console := hne
  sink h := hne (SinkId.named.inj h)
  stencil slot slot' h := by
    have htext : name.toList ++ slot.toList = name'.toList ++ slot'.toList := by
      rw [← String.toList_append, ← String.toList_append]
      exact congrArg String.toList h
    exact hne (String.toList_inj.1 (List.append_inj_left htext hlength))

/-- A console can begin at this site: its memory is empty, and its names for stencils are free. -/
structure HasRoom (s : Session) (site : Site) : Prop where
  sink_eq : s.sinks.get? site.sink = some (.memory [])
  stencil_eq : ∀ slot, s.stencils.get? (site.stencil slot) = none

/-- Opens twins: of these options, only the sink is another for each, and whether decoration is
disabled. -/
def openTwins (sites : Palette → Site) (options : Console.Options) : List Command :=
  [.openConsole (sites .ansi).console
      { options with sink := some (sites .ansi).sink, disabled := some false },
    .openConsole (sites .plain).console
      { options with sink := some (sites .plain).sink, disabled := some true }]

/-- Answers of the decorated and of the plain twin to the same action that differ in nothing but the
sinks of the twins. -/
inductive AreAlike (sites : Palette → Site) : Action → Answer → Answer → Prop where
  | indented (times : Nat) (depth : Int) (indent : Nat) :
    AreAlike sites (.indent times) (.depth depth indent) (.depth depth indent)
  | outdented (times : Nat) (depth : Int) (indent : Nat) :
    AreAlike sites (.outdent times) (.depth depth indent) (.depth depth indent)
  | printed (overwrite : Bool) (name text : List Char) :
    AreAlike sites (.print overwrite name text) .done .done
  | notPrinted (overwrite : Bool) (name text : List Char) (e : NameError) :
    AreAlike sites (.print overwrite name text) (.notPrinted (.name e)) (.notPrinted (.name e))
  | made (name : List Char) (slot : Handle) (isCompound : Bool) :
    AreAlike sites (.makeStencil name slot) (.stencil isCompound (sites .ansi).sink)
      (.stencil isCompound (sites .plain).sink)
  | refused (name : List Char) (slot : Handle) (e : NameError) :
    AreAlike sites (.makeStencil name slot) (.refused e) (.refused e)
  | filled (slot : Handle) (overwrite : Bool) (text : List Char) :
    AreAlike sites (.writeFilled slot overwrite text) .done .done
  /-- Neither twin has a stencil in this slot. -/
  | notMade (slot : Handle) (overwrite : Bool) (text : List Char) :
    AreAlike sites (.writeFilled slot overwrite text) .unknown .unknown

/-- Twins with the same journal answer alike. -/
theorem Journal.areAlike (journal : Journal) (sites : Palette → Site) (action : Action) :
    AreAlike sites action (journal.answer (sites .ansi).sink action)
      (journal.answer (sites .plain).sink action) := by
  cases action with
  | indent times => exact .indented times _ _
  | outdent times => exact .outdented times _ _
  | print overwrite name text =>
      rw [answer, answer]
      cases Style.ofName name with
      | error e => exact .notPrinted overwrite name text e
      | ok style => exact .printed overwrite name text
  | makeStencil name slot =>
      rw [answer, answer]
      cases Style.ofName name with
      | error e => exact .refused name slot e
      | ok style => exact .made name slot style.isCompound
  | writeFilled slot overwrite text =>
      rw [answer, answer]
      cases (journal.stencils slot).isSome with
      | true => exact .filled slot overwrite text
      | false => exact .notMade slot overwrite text

/-! ## Both follow their journals -/

/-- The journal of a twin after one turn, which may be the other's. -/
def Journal.afterTurn (journal : Journal) (palette : Palette) (turn : Turn) : Journal :=
  if turn.palette = palette then journal.after turn.action else journal

theorem Journal.afterAll_told_cons (journal : Journal) (palette : Palette) (turn : Turn)
    (turns : List Turn) :
    journal.afterAll (told palette (turn :: turns)) =
      (journal.afterTurn palette turn).afterAll (told palette turns) := by
  rw [told, List.filter_cons, afterTurn]
  by_cases hturn : turn.palette = palette
  · rw [if_pos hturn, if_pos (decide_eq_true hturn)]
    rfl
  · rw [if_neg hturn, if_neg (by simpa using hturn)]
    rfl

section

variable [Log.TimeLibrary] {s : Session} {sites : Palette → Site}

/-- New twins follow the journal of a console that was only opened. -/
theorem follows_openTwins (hapart : Pairwise fun p q => (sites p).IsApart (sites q))
    (hroom : ∀ p, s.HasRoom (sites p)) (options : Console.Options) (p : Palette) :
    (s.run (openTwins sites options)).Follows (sites p) p
      (.opened (Console.ofOptions s.decorated options)) := by
  refine ⟨?_, (hroom p).sink_eq, (hroom p).stencil_eq⟩
  have hne : (sites .ansi).console ≠ (sites .plain).console := (hapart (by decide)).console
  show ((s.consoles.insert (sites .ansi).console _).insert (sites .plain).console _).get?
    (sites p).console = some _
  cases p with
  | ansi =>
      rw [Table.get?_insert, if_neg hne, Table.get?_insert, if_pos rfl]
      rfl
  | plain =>
      rw [Table.get?_insert, if_pos rfl]
      rfl

/-- Whatever the twins are told, each follows its own journal. -/
theorem follows_run {journals : Palette → Journal} (hsound : s.cache.IsSound)
    (hapart : Pairwise fun p q => (sites p).IsApart (sites q))
    (h : ∀ p, s.Follows (sites p) p (journals p)) (turns : List Turn) (p : Palette) :
    (s.run (turns.map (Turn.command sites))).Follows (sites p) p
      ((journals p).afterAll (told p turns)) := by
  induction turns generalizing s journals with
  | nil => exact h p
  | cons turn turns ih =>
      have hdoes := (h turn.palette).does_action hsound turn.action
      have hturn := hdoes.leadsTo
      have hends : (s.step (turn.command sites)).answer.isEndless = false :=
        (congrArg Answer.isEndless hdoes.answer_eq).trans (Journal.isEndless_answer ..)
      have hnext : ∀ q, (s.step (turn.command sites)).session.Follows (sites q) q
          ((journals q).afterTurn q turn) := by
        intro q
        rw [Journal.afterTurn]
        by_cases hq : turn.palette = q
        · rw [if_pos hq, ← hq]
          exact hturn.follows
        · rw [if_neg hq]
          exact (h q).of_changesOnly hturn.changesOnly (hapart (Ne.symm hq))
      rw [Journal.afterAll_told_cons, List.map_cons, run_cons_of_ends _ hends]
      exact ih (isSound_cache_step hsound _) hnext

end

/-! ## What they show -/

/-- What is left of a journal under one palette is the journal under the other, if no text in it
opens a control string. -/
theorem Journal.leaves_text {α : Type} {l : Text.Lexeme α} {p q : Palette}
    (hbegin : l.BeginsWith escape) (hcodes : ∀ a, l.Leaves (p.code a) (q.code a))
    (hrewind : l.Leaves Control.rewind Control.rewind) {journal : Journal}
    (hfree : ∀ entry ∈ journal.entries, escape ∉ entry.text) :
    l.Leaves (journal.text p) (journal.text q) := by
  apply Text.Lexeme.Becomes.flatMap
  intro entry hentry
  exact Line.leaves_line hbegin hcodes hrewind entry.style entry.layout entry.overwrite
    (hfree entry hentry)

section

variable [Log.TimeLibrary] {s s' : Session} {journal : Journal}

theorem Follows.showMemory_eq {site : Site} {palette : Palette}
    (h : s.Follows site palette journal) :
    (s.step (.showMemory site.sink)).answer = .text (journal.text palette) := by
  rw [step, effect, onMemory, withSink_of_get? h.sink_eq]
  exact congrArg Answer.text (Text.Utf8.decodeLossy_encode (journal.text palette))

omit [Log.TimeLibrary] in
/-- A journal shows the same text under both palettes. -/
theorem Journal.text_plain_eq (hfree : ∀ entry ∈ journal.entries, escape ∉ entry.text) :
    journal.text .plain = single.erase (journal.text .ansi) ∧
      sequence.occurrences (journal.text .plain) = [] := by
  have hleft : single.Leaves (journal.text .ansi) (journal.text .plain) :=
    Journal.leaves_text Control.beginsWith_single Control.leaves_single_code
      Control.leaves_single_rewind hfree
  have hall : sequence.Leaves (journal.text .plain) (journal.text .plain) :=
    Journal.leaves_text Control.isOpenedBy_sequence.beginsWith Control.leaves_sequence_plain_code
      Control.leaves_sequence_rewind hfree
  exact ⟨hleft.erase_eq.symm, hall.occurrences_eq_nil⟩

/-- If the twins follow one journal, they answer alike. -/
theorem Follows.areAlike {sites : Palette → Site} (ha : s.Follows (sites .ansi) .ansi journal)
    (hb : s'.Follows (sites .plain) .plain journal) (hsound : s.cache.IsSound)
    (hsound' : s'.cache.IsSound) (action : Action) :
    AreAlike sites action (s.step (action.command (sites .ansi))).answer
      (s'.step (action.command (sites .plain))).answer := by
  rw [(ha.does_action hsound action).answer_eq, (hb.does_action hsound' action).answer_eq]
  exact journal.areAlike sites action

/-- Twins show the same text. Take any session, in which twins were opened and then told all kinds
of things, in any order, and two moments when the decorated and the plain twin were told the same.
Each memory keeps the lines that were told, as the palette of its twin shows them. If the texts among
what was told are free of escapes, the memory of the plain twin keeps what that of the decorated one
keeps, without its select sequences; none is left. Whatever both are told next, they answer alike. -/
theorem twins_show_same_text (terminal : Terminal) (sinks : Table SinkId Sink)
    (history : List Command) (options : Console.Options) {sites : Palette → Site}
    (hapart : Pairwise fun p q => (sites p).IsApart (sites q))
    (hroom : ∀ p, ((start terminal sinks).run history).HasRoom (sites p))
    {turns turns' : List Turn} (hsame : told .ansi turns = told .plain turns')
    (hfree : ∀ action ∈ told .ansi turns, escape ∉ action.text) :
    let before := (start terminal sinks).run history
    let opened := before.run (openTwins sites options)
    let s := opened.run (turns.map (Turn.command sites))
    let s' := opened.run (turns'.map (Turn.command sites))
    let fresh := Console.ofOptions before.decorated options
    let journal := (Journal.opened fresh).afterAll (told .ansi turns)
    (s.step (.showMemory (sites .ansi).sink)).answer = .text (journal.text .ansi) ∧
    (s'.step (.showMemory (sites .plain).sink)).answer = .text (journal.text .plain) ∧
    journal.text .plain = single.erase (journal.text .ansi) ∧
    sequence.occurrences (journal.text .plain) = [] ∧
    ∀ action, AreAlike sites action (s.step (action.command (sites .ansi))).answer
      (s'.step (action.command (sites .plain))).answer := by
  intro before opened s s' fresh journal
  have hsound : opened.cache.IsSound :=
    isSound_cache_run (isSound_cache_run_start terminal sinks history) _
  have hopened := follows_openTwins hapart hroom options
  -- Both were told the same, so it is one journal that both follow.
  have hansi := follows_run hsound hapart hopened turns .ansi
  have hplain := follows_run hsound hapart hopened turns' .plain
  rw [← hsame] at hplain
  obtain ⟨htext, hnone⟩ := journal.text_plain_eq
    (Journal.not_mem_text_afterAll (List.forall_mem_nil _) hfree)
  exact ⟨hansi.showMemory_eq, hplain.showMemory_eq, htext, hnone,
    hansi.areAlike hplain (isSound_cache_run hsound _) (isSound_cache_run hsound _)⟩

end

/-! ## One after the other -/

section

open scoped Log.PlainTimes

/-- The decorated twin is told everything before the plain one is told anything: an indentation, and
a line in two parts that is drawn over another and has a piece too many. -/
theorem twins_show_same_text_one_by_one :
    let sites (palette : Palette) := Site.named (if palette.isPlain then "b" else "a")
    let sinks := Table.ofList [(.named "a", Sink.memory []), (.named "b", .memory [])]
    let actions := [Action.indent 2, .makeStencil "red_and_up".toList "slot",
      .writeFilled "slot" true "a\\||b|c".toList]
    let turns := actions.map (Turn.mk .ansi)
    let turns' := turns ++ actions.map (Turn.mk .plain)
    let opened := (start .forced sinks).run
      (openTwins sites ⟨none, some 1, some true, some true, none⟩)
    ∃ text,
      ((opened.run (turns.map (Turn.command sites))).step (.showMemory (.named "a"))).answer =
        .text text ∧
      ((opened.run (turns'.map (Turn.command sites))).step (.showMemory (.named "b"))).answer =
        .text (single.erase text) := by
  intro sites sinks actions turns turns' opened
  have hapart : Pairwise fun p q => (sites p).IsApart (sites q) := by
    intro p q hpq
    apply Site.isApart_named
    · cases p <;> cases q <;> rfl
    · cases p <;> cases q <;> first | decide | exact absurd rfl hpq
  have hroom : ∀ p, ((start .forced sinks).run []).HasRoom (sites p) := by
    intro p
    cases p <;> exact ⟨rfl, fun _ => rfl⟩
  have hfree : ∀ action ∈ told .ansi turns, escape ∉ action.text := by
    decide
  have hsame : told .ansi turns = told .plain turns' := rfl
  obtain ⟨hansi, hplain, htext, -⟩ := twins_show_same_text .forced sinks []
    ⟨none, some 1, some true, some true, none⟩ hapart hroom hsame hfree
  rw [htext] at hplain
  exact ⟨_, hansi, hplain⟩

end

end TerminalDecoration.Session
