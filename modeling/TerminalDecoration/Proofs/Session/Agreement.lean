/-
# What commands read

A command makes the same changes in two sessions, and comes to an end in both or in neither, if it
finds there what it is about and reads names as the same styles. Where also the caches are the same,
and the filters, and whether the terminal was looked at, it causes the same reports. Only what it
answers may tell more of a session.
-/

import TerminalDecoration.Proofs.Session.Footprint

namespace TerminalDecoration.Session

/-- The command finds the same in both sessions. -/
def FindsSame (s : Session) (command : Command) (s' : Session) : Prop :=
  match command.subject with
  | .nothing => True
  | .sink id => s'.sinks.get? id = s.sinks.get? id
  | .object kind id => (s'.table kind).get? id = (s.table kind).get? id ∧
      ∀ object, (s.table kind).get? id = some object →
        s'.sinks.get? (kind.sink object) = s.sinks.get? (kind.sink object)
  | .filter id => s'.filters.find? id = s.filters.find? id ∧
      ∀ cell, s.filters.find? id = some cell → s'.sinks.get? cell.sink = s.sinks.get? cell.sink

/-- All that the changes rest on which the command makes is the same in both sessions. -/
structure ReadsSame (s : Session) (command : Command) (s' : Session) : Prop where
  terminal_eq : s'.terminal = s.terminal
  lookup_eq : ∀ name, (Style.lookup s'.cache name).result = (Style.lookup s.cache name).result
  finds : s.FindsSame command s'

/-- The sessions share what reports are made of. -/
structure ReportsSame (s s' : Session) : Prop where
  cache_eq : s'.cache = s.cache
  filters_eq : s'.filters = s.filters
  probed_eq : s'.probed = s.probed

/-- Two effects of a command in two sessions that are as much alike as these are. -/
structure Effect.AgreesWith (s s' : Session) (effect effect' : Effect) : Prop where
  changes_eq : effect'.changes = effect.changes
  isEndless_eq : effect'.answer.isEndless = effect.answer.isEndless
  rest_eq : s.ReportsSame s' → effect'.cache? = effect.cache? ∧ effect'.reports = effect.reports

section

variable {s s' : Session} {command : Command}

theorem Effect.AgreesWith.of_eq {effect effect' : Effect} (h : effect' = effect) :
    effect.AgreesWith s s' effect' := by
  subst h
  exact ⟨rfl, rfl, fun _ => ⟨rfl, rfl⟩⟩

/-- Effects that differ in answers only, neither of which is that the command never ends. -/
theorem agreesWith_of_answers {answer answer' : Answer} (h : answer.isEndless = false)
    (h' : answer'.isEndless = false) (changes : List Change) :
    ({ answer := answer, changes := changes } : Effect).AgreesWith s s'
      { answer := answer', changes := changes } :=
  ⟨rfl, h'.trans h.symm, fun _ => ⟨rfl, rfl⟩⟩

/-! ## What is found -/

theorem agreesWith_withObject {kind : Kind} {id : Handle} {act act' : kind.Object → Effect}
    (h : s.FindsSame command s') (hsubject : command.subject = .object kind id)
    (hact : ∀ object, s'.sinks.get? (kind.sink object) = s.sinks.get? (kind.sink object) →
      (act object).AgreesWith s s' (act' object)) :
    (s.withObject kind id act).AgreesWith s s' (s'.withObject kind id act') := by
  rw [FindsSame, hsubject] at h
  dsimp only at h
  rw [withObject, withObject, h.1]
  cases hobject : (s.table kind).get? id with
  | none => exact .of_eq rfl
  | some object => exact hact object (h.2 object hobject)

theorem agreesWith_withFilter {id : Handle} {act act' : Filter.Cell → Effect}
    (h : s.FindsSame command s') (hsubject : command.subject = .filter id)
    (hact : ∀ cell, s'.sinks.get? cell.sink = s.sinks.get? cell.sink →
      (act cell).AgreesWith s s' (act' cell)) :
    (s.withFilter id act).AgreesWith s s' (s'.withFilter id act') := by
  rw [FindsSame, hsubject] at h
  dsimp only at h
  rw [withFilter, withFilter, h.1]
  cases hcell : s.filters.find? id with
  | none => exact .of_eq rfl
  | some cell => exact hact cell (h.2 cell hcell)

theorem deliverTo_congr {id : SinkId} (h : s'.sinks.get? id = s.sinks.get? id)
    (act : Sink → Delivery × Sink) (answer : Delivery → Answer) :
    s'.deliverTo id act answer = s.deliverTo id act answer := by
  rw [deliverTo, deliverTo, withSink, withSink, h]

theorem onMemory_congr {id : SinkId} (h : s'.sinks.get? id = s.sinks.get? id)
    (act : List UInt8 → Answer × List UInt8) : s'.onMemory id act = s.onMemory id act := by
  rw [onMemory, onMemory, withSink, withSink, h]

/-- Requests are always answered. -/
theorem isEndless_askFilters (s : Session) (request : Filter.Request) (id : Handle)
    {answer : Filter.Store → Filter.Cell → Answer}
    (h : ∀ filters cell, (answer filters cell).isEndless = false) :
    (s.askFilters request id answer).answer.isEndless = false := by
  dsimp only [askFilters]
  split
  · rfl
  · exact h _ _

theorem agreesWith_askFilters (request : Filter.Request) (id : Handle)
    {answer : Filter.Store → Filter.Cell → Answer}
    (h : ∀ filters cell, (answer filters cell).isEndless = false) :
    (s.askFilters request id answer).AgreesWith s s' (s'.askFilters request id answer) where
  changes_eq := rfl
  isEndless_eq := (s'.isEndless_askFilters _ _ h).trans (s.isEndless_askFilters _ _ h).symm
  rest_eq hsame := by
    dsimp only [askFilters]
    rw [hsame.filters_eq]
    exact ⟨rfl, rfl⟩

/-! ## What is read -/

variable (hlookup : ∀ name, (Style.lookup s'.cache name).result = (Style.lookup s.cache name).result)

include hlookup

theorem agreesWith_print {id : Handle} {overwrite : Bool} {style text : List Char}
    (h : s.FindsSame (.print id overwrite style text) s') :
    (s.print id overwrite style text).AgreesWith s s' (s'.print id overwrite style text) := by
  refine agreesWith_withObject h rfl fun console hsink => ?_
  have hsame : s'.sinks.get? console.sink = s.sinks.get? console.sink := hsink
  rw [withSink, withSink, hsame]
  cases s.sinks.get? console.sink with
  | none => exact .of_eq rfl
  | some sink =>
      dsimp only [Console.print]
      rw [hlookup style]
      refine ⟨?_, ?_, fun hsame => ?_⟩
      · cases (Style.lookup s.cache style).result <;> rfl
      · cases (Style.lookup s.cache style).result <;> rfl
      · rw [hsame.cache_eq]
        exact ⟨rfl, rfl⟩

theorem agreesWith_makeStencil {console : Handle} {style : List Char} {id : Handle}
    (h : s.FindsSame (.makeStencil console style id) s') :
    (s.makeStencil console style id).AgreesWith s s' (s'.makeStencil console style id) := by
  refine agreesWith_withObject h rfl fun console _ => ?_
  dsimp only
  rw [hlookup style]
  cases (Style.lookup s.cache style).result <;>
    exact ⟨rfl, rfl, fun hsame => by rw [hsame.cache_eq]; exact ⟨rfl, rfl⟩⟩

theorem agreesWith_lookupStyle (name : List Char) :
    (s.lookupStyle name).AgreesWith s s' (s'.lookupStyle name) where
  changes_eq := rfl
  isEndless_eq := by
    dsimp only [lookupStyle]
    rw [hlookup name]
  rest_eq hsame := by
    dsimp only [lookupStyle]
    rw [hsame.cache_eq]
    exact ⟨rfl, rfl⟩

omit hlookup in
theorem agreesWith_openConsole (hterminal : s'.terminal = s.terminal) (id : Handle)
    (options : Console.Options) :
    (s.openConsole id options).AgreesWith s s' (s'.openConsole id options) := by
  have hdecorated : s'.decorated = s.decorated := congrArg Terminal.isDecorated hterminal
  dsimp only [openConsole]
  rw [hdecorated, hterminal]
  exact ⟨rfl, rfl, fun hsame => by rw [hsame.probed_eq]; exact ⟨rfl, rfl⟩⟩

omit hlookup in
theorem agreesWith_compareFilters (first second : Handle) :
    (s.compareFilters first second).AgreesWith s s' (s'.compareFilters first second) := by
  rw [compareFilters, compareFilters]
  split <;> split <;> exact ⟨rfl, rfl, fun _ => ⟨rfl, rfl⟩⟩

omit hlookup in
/-- A command has the same effect on what it reads alike. -/
theorem agreesWith_effect [Log.TimeLibrary] (h : s.ReadsSame command s') :
    (s.effect command).AgreesWith s s' (s'.effect command) := by
  have hfinds := h.finds
  cases command with
  | openConsole => exact agreesWith_openConsole h.terminal_eq _ _
  | askIndentStep | compareSinks | addGuarded => exact .of_eq rfl
  | showRegistry => exact agreesWith_of_answers rfl rfl []
  | compareFilters => exact agreesWith_compareFilters _ _
  | indent | outdent | showConsole | render | showFilled | showRecord | makeLogger
  | makeSubscriber | installLogger =>
      exact agreesWith_withObject hfinds rfl fun _ _ => .of_eq rfl
  | print => exact agreesWith_print h.lookup_eq hfinds
  | makeStencil => exact agreesWith_makeStencil h.lookup_eq hfinds
  | writeRendered | writeFilled | log | emit =>
      exact agreesWith_withObject hfinds rfl fun _ hsink => .of_eq (deliverTo_congr hsink _ _)
  | lookup => exact agreesWith_lookupStyle h.lookup_eq _
  | lookupAll =>
      refine ⟨rfl, rfl, fun hsame => ?_⟩
      dsimp only [effect, lookupAll]
      rw [hsame.cache_eq]
      exact ⟨rfl, rfl⟩
  | write => exact .of_eq (deliverTo_congr hfinds _ _)
  | takeMemory | showMemory | askEmpty | appendMemory =>
      rw [effect, effect]
      exact .of_eq (onMemory_congr hfinds _)
  | requestFilter | cloneFilter =>
      rw [effect, effect]
      exact agreesWith_askFilters _ _ fun _ _ => rfl
  | setMode id mode =>
      cases mode with
      | none => exact agreesWith_withFilter hfinds rfl fun _ _ => .of_eq rfl
      | some mode =>
          rw [effect, effect]
          exact agreesWith_askFilters _ _ fun _ _ => rfl
  | filter => exact agreesWith_withFilter hfinds rfl fun _ _ => .of_eq rfl
  | writeFilteredText | writeFiltered | writeAllFiltered =>
      exact agreesWith_withFilter hfinds rfl fun _ hsink => .of_eq (deliverTo_congr hsink _ _)
  | installSubscriber =>
      exact agreesWith_withObject hfinds rfl fun _ _ => agreesWith_of_answers rfl rfl _

end

end TerminalDecoration.Session
