/-
# Journals

What a console does can be told without its palette and without its sink: how deep it is indented,
which styles its stencils have, and which lines it wrote in which style. A journal records this. Two
facts tie it to a session. A console that follows its journal goes on to do so, whatever it is told:
its memory always keeps the lines of the journal, as its palette shows them. And whatever it is
told, nothing changes in the session but what belongs to it and the cache, so that other consoles go
on to follow their own journals.
-/

import Mathlib.Logic.Function.Basic
import TerminalDecoration.Proofs.Line.Parts
import TerminalDecoration.Proofs.Session.Lookups
import TerminalDecoration.Proofs.Text.Utf8

namespace TerminalDecoration.Session

open Text.Utf8 (encode)

/-! ## Telling a console something -/

/-- Where a console is kept, and what belongs to it. -/
structure Site where
  console : Handle
  sink : SinkId
  /-- The name of the stencil in this slot. -/
  stencil : Handle → Handle
  stencil_injective : Function.Injective stencil

/-- Nothing belongs to both sites. -/
structure Site.IsApart (a b : Site) : Prop where
  console : a.console ≠ b.console
  sink : a.sink ≠ b.sink
  stencil : ∀ slot slot', a.stencil slot ≠ b.stencil slot'

/-- What a console can be told, wherever it is kept. -/
inductive Action where
  | indent (times : Nat)
  | outdent (times : Nat)
  | print (overwrite : Bool) (style text : List Char)
  /-- Makes a stencil and keeps it in a slot. -/
  | makeStencil (style : List Char) (slot : Handle)
  /-- Fills the stencil in a slot and writes the line. -/
  | writeFilled (slot : Handle) (overwrite : Bool) (text : List Char)

namespace Action

/-- The command that tells the console at this site. -/
def command (site : Site) : Action → Command
  | indent times => .indent site.console times
  | outdent times => .outdent site.console times
  | print overwrite style text => .print site.console overwrite style text
  | makeStencil style slot => .makeStencil site.console style (site.stencil slot)
  | writeFilled slot overwrite text => .writeFilled (site.stencil slot) overwrite text

/-- The text that is to be written. -/
def text : Action → List Char
  | print _ _ text => text
  | writeFilled _ _ text => text
  | _ => []

end Action

/-! ## Recording what it does -/

/-- A line as it was written, before its codes are chosen. -/
structure Entry where
  style : Style
  layout : Line.Layout
  overwrite : Bool
  text : List Char

/-- The line as the palette shows it. -/
def Entry.line (entry : Entry) (palette : Palette) : List Char :=
  (Line.Stencil.ofStyle entry.style palette entry.layout).line entry.overwrite entry.text

/-- A console with its stencils and lines. The sink and the palette of the console mean nothing
here. -/
structure Journal where
  console : Console
  /-- The style and the layout of the stencil in each slot. -/
  stencils : Handle → Option (Style × Line.Layout)
  /-- The lines, the oldest first. -/
  entries : List Entry

namespace Journal

/-- The journal of a new console. -/
def opened (console : Console) : Journal := ⟨console, fun _ => none, []⟩

/-- All lines as the palette shows them. -/
def text (journal : Journal) (palette : Palette) : List Char :=
  journal.entries.flatMap fun entry => entry.line palette

/-- One line more. -/
def write (journal : Journal) (entry : Entry) : Journal :=
  { journal with entries := journal.entries ++ [entry] }

/-- The journal after the console was told something. -/
def after (journal : Journal) : Action → Journal
  | .indent times => { journal with console := Nat.repeat Console.indent times journal.console }
  | .outdent times => { journal with console := Nat.repeat Console.outdent times journal.console }
  | .print overwrite name text =>
    match Style.ofName name with
    | .error _ => journal
    | .ok style => journal.write ⟨style, journal.console.layout, overwrite, text⟩
  | .makeStencil name slot =>
    match Style.ofName name with
    | .error _ => journal
    | .ok style =>
      let kept := (style, journal.console.layout)
      { journal with stencils := Function.update journal.stencils slot (some kept) }
  | .writeFilled slot overwrite text =>
    match journal.stencils slot with
    | none => journal
    | some (style, layout) => journal.write ⟨style, layout, overwrite, text⟩

/-- What the console answers, if it writes to this sink. -/
def answer (journal : Journal) (sink : SinkId) : Action → Answer
  | .indent times =>
    let console := Nat.repeat Console.indent times journal.console
    .depth console.depth console.layout.indent
  | .outdent times =>
    let console := Nat.repeat Console.outdent times journal.console
    .depth console.depth console.layout.indent
  | .print _ name _ =>
    match Style.ofName name with
    | .error e => .notPrinted (.name e)
    | .ok _ => .done
  | .makeStencil name _ =>
    match Style.ofName name with
    | .error e => .refused e
    | .ok style => .stencil style.isCompound sink
  | .writeFilled slot _ _ => if (journal.stencils slot).isSome then .done else .unknown

/-- A console always answers. -/
theorem isEndless_answer (journal : Journal) (sink : SinkId) (action : Action) :
    (journal.answer sink action).isEndless = false := by
  cases action with
  | indent | outdent => rfl
  | print overwrite name text =>
      rw [answer]
      cases Style.ofName name <;> rfl
  | makeStencil name slot =>
      rw [answer]
      cases Style.ofName name <;> rfl
  | writeFilled slot overwrite text =>
      rw [answer]
      split <;> rfl

/-- The journal after the console was told all this, one after the other. -/
def afterAll (journal : Journal) (actions : List Action) : Journal := actions.foldl after journal

theorem text_write (journal : Journal) (entry : Entry) (palette : Palette) :
    (journal.write entry).text palette = journal.text palette ++ entry.line palette := by
  rw [text, write, List.flatMap_append, List.flatMap_singleton, ← text]

theorem mem_entries_write {journal : Journal} {entry new : Entry}
    (hentry : entry ∈ (journal.write new).entries) :
    entry ∈ journal.entries ∨ entry.text = new.text := by
  apply (List.mem_append.1 hentry).imp_right
  intro hnew
  rw [List.mem_singleton.1 hnew]

/-- A line of the journal was there before, or its text is the one to be written. -/
theorem mem_entries_after {journal : Journal} {action : Action} {entry : Entry}
    (hentry : entry ∈ (journal.after action).entries) :
    entry ∈ journal.entries ∨ entry.text = action.text := by
  cases action with
  | indent | outdent => exact Or.inl hentry
  | print overwrite name text =>
      rw [after] at hentry
      cases hname : Style.ofName name with
      | error e =>
          rw [hname] at hentry
          exact Or.inl hentry
      | ok style =>
          rw [hname] at hentry
          exact mem_entries_write hentry
  | makeStencil name slot =>
      rw [after] at hentry
      left
      cases hname : Style.ofName name with
      | error e => rwa [hname] at hentry
      | ok style => rwa [hname] at hentry
  | writeFilled slot overwrite text =>
      rw [after] at hentry
      cases hslot : journal.stencils slot with
      | none =>
          rw [hslot] at hentry
          exact Or.inl hentry
      | some kept =>
          rw [hslot] at hentry
          exact mem_entries_write hentry

/-- Only characters of texts that are to be written come into the journal. -/
theorem not_mem_text_afterAll {c : Char} {journal : Journal} {actions : List Action}
    (hentries : ∀ entry ∈ journal.entries, c ∉ entry.text)
    (hactions : ∀ action ∈ actions, c ∉ action.text) :
    ∀ entry ∈ (journal.afterAll actions).entries, c ∉ entry.text := by
  induction actions generalizing journal with
  | nil => exact hentries
  | cons action actions ih =>
      rw [List.forall_mem_cons] at hactions
      apply ih _ hactions.2
      intro entry hentry
      rcases mem_entries_after hentry with hold | htext
      · exact hentries entry hold
      · rw [htext]
        exact hactions.1

end Journal

/-! ## Following a journal -/

/-- The console at the site and its memory are as the journal says, under this palette. -/
structure Follows (s : Session) (site : Site) (palette : Palette) (journal : Journal) : Prop where
  console_eq : s.consoles.get? site.console =
    some { journal.console with sink := site.sink, palette := palette }
  sink_eq : s.sinks.get? site.sink = some (.memory (encode (journal.text palette)))
  stencil_eq : ∀ slot, s.stencils.get? (site.stencil slot) =
    (journal.stencils slot).map fun kept => ⟨site.sink, .ofStyle kept.1 palette kept.2⟩

/-- From the first session to the second only what belongs to the site has changed, of all that
belongs to consoles. -/
structure ChangesOnly (site : Site) (s s' : Session) : Prop where
  consoles : ∀ id, id ≠ site.console → s'.consoles.get? id = s.consoles.get? id
  sinks : ∀ id, id ≠ site.sink → s'.sinks.get? id = s.sinks.get? id
  stencils : ∀ id, (∀ slot, id ≠ site.stencil slot) → s'.stencils.get? id = s.stencils.get? id

/-- A console follows its journal as long as only others are told something. -/
theorem Follows.of_changesOnly {s s' : Session} {site other : Site} {palette : Palette}
    {journal : Journal} (h : s.Follows site palette journal) (hchanges : ChangesOnly other s s')
    (hapart : site.IsApart other) : s'.Follows site palette journal where
  console_eq := (hchanges.consoles _ hapart.console).trans h.console_eq
  sink_eq := (hchanges.sinks _ hapart.sink).trans h.sink_eq
  stencil_eq := by
    intro slot
    exact (hchanges.stencils _ (hapart.stencil slot)).trans (h.stencil_eq slot)

/-- The second session is one that the console at the site may bring about: it follows the journal
there, and only what belongs to it has changed. -/
structure LeadsTo (site : Site) (palette : Palette) (s s' : Session) (journal : Journal) :
    Prop where
  follows : s'.Follows site palette journal
  changesOnly : ChangesOnly site s s'

section

variable {s s' : Session} {site : Site} {palette : Palette} {journal : Journal}

theorem ChangesOnly.refl (site : Site) (s : Session) : ChangesOnly site s s :=
  ⟨fun _ _ => rfl, fun _ _ => rfl, fun _ _ => rfl⟩

/-- The cache belongs to no console. -/
theorem LeadsTo.withCache (h : LeadsTo site palette s s' journal) (cache : Style.Cache) :
    LeadsTo site palette s { s' with cache := cache } journal :=
  ⟨⟨h.follows.console_eq, h.follows.sink_eq, h.follows.stencil_eq⟩,
    ⟨h.changesOnly.consoles, h.changesOnly.sinks, h.changesOnly.stencils⟩⟩

namespace Follows

variable (h : s.Follows site palette journal)

include h

theorem leadsTo_self : LeadsTo site palette s s journal := ⟨h, ChangesOnly.refl site s⟩

theorem leadsTo_putConsole (console : Console) :
    LeadsTo site palette s
      (s.apply (.put .console site.console
        { console with sink := site.sink, palette := palette }))
      { journal with console := console } where
  follows := ⟨(Table.get?_insert ..).trans (if_pos rfl), h.sink_eq, h.stencil_eq⟩
  changesOnly := by
    refine ⟨?_, fun _ _ => rfl, fun _ _ => rfl⟩
    intro id hid
    exact (Table.get?_insert ..).trans (if_neg hid)

theorem leadsTo_putSink (entries : List Entry) :
    LeadsTo site palette s
      (s.apply (.sink site.sink
        (.memory (encode (Journal.text { journal with entries := entries } palette)))))
      { journal with entries := entries } where
  follows := ⟨h.console_eq, (Table.get?_insert ..).trans (if_pos rfl), h.stencil_eq⟩
  changesOnly := by
    refine ⟨fun _ _ => rfl, ?_, fun _ _ => rfl⟩
    intro id hid
    exact (Table.get?_insert ..).trans (if_neg hid)

/-- A memory that takes the bytes of a line keeps the journal with this line. -/
theorem leadsTo_write (entry : Entry) :
    LeadsTo site palette s
      (s.apply (.sink site.sink
        (.memory (encode (journal.text palette) ++ encode (entry.line palette)))))
      (journal.write entry) := by
  rw [← Text.Utf8.encode_append, ← journal.text_write]
  exact h.leadsTo_putSink (journal.entries ++ [entry])

theorem leadsTo_putStencil (slot : Handle) (style : Style) (layout : Line.Layout) :
    LeadsTo site palette s
      (s.apply (.put .stencil (site.stencil slot)
        ⟨site.sink, .ofStyle style palette layout⟩))
      { journal with stencils :=
          Function.update journal.stencils slot (some (style, layout)) } where
  follows := by
    refine ⟨h.console_eq, h.sink_eq, ?_⟩
    intro slot'
    refine (Table.get?_insert ..).trans ?_
    dsimp only
    by_cases hslot : slot' = slot
    · rw [hslot, if_pos rfl, Function.update_self]
      rfl
    · rw [if_neg (site.stencil_injective.ne hslot), Function.update_of_ne hslot]
      exact h.stencil_eq slot'
  changesOnly := by
    refine ⟨fun _ _ => rfl, fun _ _ => rfl, ?_⟩
    intro id hid
    exact (Table.get?_insert ..).trans (if_neg (hid slot))

end Follows

end

/-! ## Single commands -/

/-- A step does to the console at the site what the journal says. -/
structure Step.Does (step : Step) (s : Session) (site : Site) (palette : Palette)
    (journal : Journal) (action : Action) : Prop where
  leadsTo : LeadsTo site palette s step.session (journal.after action)
  answer_eq : step.answer = journal.answer site.sink action

theorem repeat_withPalette {shift : Console → Console}
    (hshift : ∀ (console : Console) (sink : SinkId) (palette : Palette),
      shift { console with sink := sink, palette := palette } =
        { shift console with sink := sink, palette := palette })
    (times : Nat) (console : Console) (sink : SinkId) (palette : Palette) :
    Nat.repeat shift times { console with sink := sink, palette := palette } =
      { Nat.repeat shift times console with sink := sink, palette := palette } := by
  induction times with
  | zero => rfl
  | succ times ih => rw [Nat.repeat, ih, hshift, Nat.repeat]

namespace Follows

variable [Log.TimeLibrary]
variable {s : Session} {site : Site} {palette : Palette} {journal : Journal}
variable (h : s.Follows site palette journal)

include h

omit [Log.TimeLibrary] in
/-- A shift of the console is the same shift in the journal, if sink and palette do not matter for
it. -/
theorem shiftConsole_eq (shift : Console → Console)
    (hshift : ∀ (console : Console) (sink : SinkId) (palette : Palette),
      shift { console with sink := sink, palette := palette } =
        { shift console with sink := sink, palette := palette }) (times : Nat) :
    let console := Nat.repeat shift times journal.console
    s.shiftConsole site.console shift times =
      { answer := .depth console.depth console.layout.indent
        changes := [.put .console site.console
          { console with sink := site.sink, palette := palette }] } := by
  rw [shiftConsole, withObject_of_get? .console h.console_eq]
  dsimp only
  rw [repeat_withPalette hshift]
  rfl

theorem does_indent (times : Nat) :
    (s.step (.indent site.console times)).Does s site palette journal (.indent times) := by
  rw [step, effect, h.shiftConsole_eq Console.indent (fun _ _ _ => rfl)]
  exact ⟨h.leadsTo_putConsole _, rfl⟩

theorem does_outdent (times : Nat) :
    (s.step (.outdent site.console times)).Does s site palette journal (.outdent times) := by
  rw [step, effect, h.shiftConsole_eq Console.outdent (fun _ _ _ => rfl)]
  exact ⟨h.leadsTo_putConsole _, rfl⟩

theorem does_print (hsound : s.cache.IsSound) (overwrite : Bool) (name text : List Char) :
    (s.step (.print site.console overwrite name text)).Does s site palette journal
      (.print overwrite name text) := by
  rw [step, effect, print, withObject_of_get? .console h.console_eq]
  dsimp only
  rw [withSink_of_get? h.sink_eq]
  dsimp only [Console.print]
  rw [hsound.lookup_result]
  cases hname : Style.ofName name with
  | error e =>
      constructor
      · rw [Journal.after, hname]
        exact (h.leadsTo_putSink journal.entries).withCache _
      · rw [Journal.answer, hname]
        rfl
  | ok style =>
      constructor
      · rw [Journal.after, hname]
        exact (h.leadsTo_write ⟨style, journal.console.layout, overwrite, text⟩).withCache _
      · rw [Journal.answer, hname]
        rfl

theorem does_makeStencil (hsound : s.cache.IsSound) (name : List Char) (slot : Handle) :
    (s.step (.makeStencil site.console name (site.stencil slot))).Does s site palette journal
      (.makeStencil name slot) := by
  rw [step, effect, makeStencil, withObject_of_get? .console h.console_eq]
  dsimp only
  rw [hsound.lookup_result]
  cases hname : Style.ofName name with
  | error e =>
      constructor
      · rw [Journal.after, hname]
        exact h.leadsTo_self.withCache _
      · rw [Journal.answer, hname]
  | ok style =>
      constructor
      · rw [Journal.after, hname]
        exact (h.leadsTo_putStencil slot style journal.console.layout).withCache _
      · rw [Journal.answer, hname]
        exact congrArg (Answer.stencil · site.sink) (Line.isCompound_ofStyle _ _ _)

theorem does_writeFilled (slot : Handle) (overwrite : Bool) (text : List Char) :
    (s.step (.writeFilled (site.stencil slot) overwrite text)).Does s site palette journal
      (.writeFilled slot overwrite text) := by
  have hstencil := h.stencil_eq slot
  cases hslot : journal.stencils slot with
  | none =>
      rw [hslot] at hstencil
      rw [step, effect, withObject, show (s.table .stencil).get? _ = none from hstencil]
      constructor
      · rw [Journal.after, hslot]
        exact h.leadsTo_self
      · rw [Journal.answer, hslot]
        rfl
  | some kept =>
      rw [hslot, Option.map_some] at hstencil
      rw [step, effect, withObject_of_get? .stencil hstencil]
      dsimp only
      rw [deliverTo_of_get? h.sink_eq]
      constructor
      · rw [Journal.after, hslot]
        exact h.leadsTo_write ⟨kept.1, kept.2, overwrite, text⟩
      · rw [Journal.answer, hslot]
        rfl

/-- Whatever the console at the site is told, it does what its journal says. -/
theorem does_action (hsound : s.cache.IsSound) (action : Action) :
    (s.step (action.command site)).Does s site palette journal action := by
  cases action with
  | indent times => exact h.does_indent times
  | outdent times => exact h.does_outdent times
  | print overwrite name text => exact h.does_print hsound overwrite name text
  | makeStencil name slot => exact h.does_makeStencil hsound name slot
  | writeFilled slot overwrite text => exact h.does_writeFilled slot overwrite text

end Follows

end TerminalDecoration.Session
