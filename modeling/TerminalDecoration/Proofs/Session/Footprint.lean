/-
# What commands do and read

Every command is about one sink at most: the one that it names, or the one to which the object is
bound that it names. It changes this sink and objects bound to it, takes away the object that it
names, or asks something of the filters. The cache it only looks names up in. And it reads no more
than it is about: where two sessions have the same object and the same sink for it, it makes the same
changes in both. All that is said elsewhere of every command rests on these two facts.
-/

import TerminalDecoration.Proofs.Filter.History
import TerminalDecoration.Proofs.Style.Cache
import TerminalDecoration.Session

namespace TerminalDecoration.Session

/-! ## What a command is about -/

/-- What a command names. -/
inductive Subject where
  | nothing
  | sink (id : SinkId)
  | object (kind : Kind) (id : Handle)
  | filter (id : Handle)
  deriving DecidableEq, Repr

namespace Command

/-- What the command is about. -/
def subject : Command → Subject
  | openConsole _ options => .sink (options.sink.getD .output)
  | indent id _ | outdent id _ | showConsole id | print id .. | render id _ | writeRendered id _
  | makeStencil id .. | makeLogger _ id .. | makeSubscriber _ id => .object .console id
  | writeFilled id .. | showFilled id _ => .object .stencil id
  | log id _ | showRecord id _ | installLogger id => .object .logger id
  | installSubscriber id | emit id _ => .object .subscriber id
  | write sink _ | takeMemory sink | showMemory sink | askEmpty sink | appendMemory sink _
  | requestFilter _ sink _ => .sink sink
  | cloneFilter id _ | setMode id _ | filter id _ | writeFilteredText id _ | writeFiltered id _
  | writeAllFiltered id _ => .filter id
  | askIndentStep | lookup _ | lookupAll _ | compareSinks .. | showRegistry _ | compareFilters ..
  | addGuarded _ => .nothing

/-- What the command asks of the filters. -/
def request? : Command → Option Filter.Request
  | requestFilter registry sink id => some (.get registry sink id)
  | cloneFilter source id => some (.copy source id)
  | setMode id (some mode) => some (.set id mode)
  | _ => none

end Command

/-- The sink that a command is about. -/
def target (s : Session) (command : Command) : Option SinkId :=
  match command.subject with
  | .nothing => none
  | .sink id => some id
  | .object kind id => ((s.table kind).get? id).map kind.sink
  | .filter id => (s.filters.find? id).map Filter.Cell.sink

/-- The changes that a command may make. -/
def MayMake (s : Session) (command : Command) : Change → Prop
  | .limit limit => ∃ id logger, command = .installLogger id ∧
      s.loggers.get? id = some logger ∧ limit = logger.limit
  | .probed _ => ∃ id options, command = .openConsole id options
  | .sink id _ => s.target command = some id
  | .put kind _ object => s.target command = some (kind.sink object)
  | .remove kind id => command.subject = .object kind id
  | .filter request => command.request? = some request

/-! ## What a command does -/

/-- The effect is one that the command may have. -/
structure Effect.IsAllowed (effect : Effect) (s : Session) (command : Command) : Prop where
  changes : ∀ change ∈ effect.changes, s.MayMake command change
  /-- The cache is left as it is, or after look-ups. -/
  cache : ∃ names, effect.cache?.getD s.cache = s.cache.afterLookups names
  /-- What is reported of filters is what they report themselves. -/
  reports : command.request? = none → ∀ report ∈ effect.reports, report.isAboutFilter = false

section

variable {s : Session} {command : Command}

theorem isAllowed_answer (answer : Answer) :
    ({ answer := answer } : Effect).IsAllowed s command :=
  ⟨List.forall_mem_nil _, ⟨[], rfl⟩, fun _ => List.forall_mem_nil _⟩

theorem isAllowed_change {change : Change} (h : s.MayMake command change) (answer : Answer) :
    ({ answer := answer, changes := [change] } : Effect).IsAllowed s command :=
  ⟨List.forall_mem_singleton.2 h, ⟨[], rfl⟩, fun _ => List.forall_mem_nil _⟩

theorem isAllowed_changes {first second : Change} (hfirst : s.MayMake command first)
    (hsecond : s.MayMake command second) (answer : Answer) :
    ({ answer := answer, changes := [first, second] } : Effect).IsAllowed s command :=
  ⟨List.forall_mem_cons.2 ⟨hfirst, List.forall_mem_singleton.2 hsecond⟩, ⟨[], rfl⟩,
    fun _ => List.forall_mem_nil _⟩

theorem isAllowed_withObject {kind : Kind} {id : Handle} {act : kind.Object → Effect}
    (hsubject : command.subject = .object kind id)
    (hact : ∀ object, (s.table kind).get? id = some object →
      s.target command = some (kind.sink object) → (act object).IsAllowed s command) :
    (s.withObject kind id act).IsAllowed s command := by
  rw [withObject]
  cases hobject : (s.table kind).get? id with
  | none => exact isAllowed_answer _
  | some object =>
      refine hact object hobject ?_
      rw [target, hsubject]
      dsimp only
      rw [hobject, Option.map_some]

theorem isAllowed_withFilter {id : Handle} {act : Filter.Cell → Effect}
    (hsubject : command.subject = .filter id)
    (hact : ∀ cell, s.target command = some cell.sink → (act cell).IsAllowed s command) :
    (s.withFilter id act).IsAllowed s command := by
  rw [withFilter]
  cases hcell : s.filters.find? id with
  | none => exact isAllowed_answer _
  | some cell =>
      refine hact cell ?_
      rw [target, hsubject]
      dsimp only
      rw [hcell, Option.map_some]

theorem isAllowed_withSink {id : SinkId} {act : Sink → Effect}
    (hact : ∀ sink, (act sink).IsAllowed s command) : (s.withSink id act).IsAllowed s command := by
  rw [withSink]
  cases s.sinks.get? id with
  | none => exact isAllowed_answer _
  | some sink => exact hact sink

theorem isAllowed_deliverTo {id : SinkId} (htarget : s.target command = some id)
    (act : Sink → Delivery × Sink) (answer : Delivery → Answer) :
    (s.deliverTo id act answer).IsAllowed s command := by
  refine isAllowed_withSink fun _ => isAllowed_change ?_ _
  exact htarget

theorem isAllowed_onMemory {id : SinkId} (htarget : s.target command = some id)
    (act : List UInt8 → Answer × List UInt8) : (s.onMemory id act).IsAllowed s command := by
  refine isAllowed_withSink fun sink => ?_
  cases sink with
  | memory bytes =>
      refine isAllowed_change ?_ _
      exact htarget
  | scripted | hung => exact isAllowed_answer _

theorem isAllowed_shiftConsole {id : Handle} {shift : Console → Console}
    (hshift : ∀ console, (shift console).sink = console.sink) (times : Nat)
    (hsubject : command.subject = .object .console id) :
    (s.shiftConsole id shift times).IsAllowed s command := by
  refine isAllowed_withObject hsubject fun console _ htarget => ?_
  have hsink : (Nat.repeat shift times console).sink = console.sink := by
    induction times with
    | zero => rfl
    | succ times ih => rw [Nat.repeat, hshift, ih]
  refine isAllowed_change ?_ _
  exact htarget.trans (congrArg some hsink.symm)

theorem isAboutFilter_lookup {cache : Style.Cache} {name : List Char} :
    ∀ report ∈ (Style.lookup cache name).reports, report.isAboutFilter = false := by
  rw [Style.lookup]
  split
  · exact List.forall_mem_nil _
  · split <;> simp [Diagnostic.isAboutFilter]

theorem lookupAllFrom_fst (place : Nat) (names : List (List Char)) (cache : Style.Cache) :
    (lookupAllFrom place names cache).1 = cache.afterLookups names := by
  induction names generalizing place cache with
  | nil => rfl
  | cons name names ih =>
      rw [Style.Cache.afterLookups_cons, ← ih (place + 1)]
      rfl

theorem isAllowed_print (id : Handle) (overwrite : Bool) (style text : List Char) :
    (s.print id overwrite style text).IsAllowed s (.print id overwrite style text) := by
  refine isAllowed_withObject rfl fun console _ htarget => isAllowed_withSink fun sink => ?_
  refine ⟨List.forall_mem_singleton.2 htarget, ⟨[style], ?_⟩, fun _ => ?_⟩
  · dsimp only [Console.print]
    cases (Style.lookup s.cache style).result <;> rfl
  · dsimp only [Console.print]
    split <;> exact isAboutFilter_lookup

theorem isAllowed_makeStencil (console : Handle) (style : List Char) (id : Handle) :
    (s.makeStencil console style id).IsAllowed s (.makeStencil console style id) := by
  refine isAllowed_withObject rfl fun console _ htarget => ?_
  dsimp only
  split
  · exact ⟨List.forall_mem_nil _, ⟨[style], rfl⟩, fun _ => isAboutFilter_lookup⟩
  · exact ⟨List.forall_mem_singleton.2 htarget, ⟨[style], rfl⟩, fun _ => isAboutFilter_lookup⟩

theorem isAllowed_openConsole (id : Handle) (options : Console.Options) :
    (s.openConsole id options).IsAllowed s (.openConsole id options) where
  changes :=
    List.forall_mem_cons.2 ⟨⟨id, options, rfl⟩, List.forall_mem_singleton.2 rfl⟩
  cache := ⟨[], rfl⟩
  reports := by
    intro _ report hreport
    rcases List.mem_append.1 hreport with hprobe | hopened
    · rw [List.mem_ite_nil_right, List.mem_singleton] at hprobe
      rw [hprobe.2]
      rfl
    · rw [List.mem_singleton.1 hopened]
      rfl

section

variable [Log.TimeLibrary]

theorem isAboutFilter_setTimeFormats (logger : Log.Logger) (texts : List (List Char)) :
    ∀ report ∈ (logger.setTimeFormats texts).2, report.isAboutFilter = false := by
  induction texts generalizing logger with
  | nil => exact List.forall_mem_nil _
  | cons text texts ih =>
      have hfirst : ∀ report ∈ (logger.setTimeFormat text).2, report.isAboutFilter = false := by
        rw [Log.Logger.setTimeFormat]
        split <;> simp [Diagnostic.isAboutFilter]
      exact List.forall_mem_append.2 ⟨hfirst, ih _⟩

theorem console_setTimeFormats (logger : Log.Logger) (texts : List (List Char)) :
    (logger.setTimeFormats texts).1.console = logger.console := by
  induction texts generalizing logger with
  | nil => rfl
  | cons text texts ih =>
      have hfirst : (logger.setTimeFormat text).1.console = logger.console := by
        rw [Log.Logger.setTimeFormat]
        split <;> rfl
      exact (ih _).trans hfirst

theorem isAllowed_makeLogger (id console : Handle) (options : LoggerOptions)
    (subscriber : Bool) :
    (s.makeLogger id console options subscriber).IsAllowed s
      (.makeLogger id console options subscriber) := by
  refine isAllowed_withObject rfl fun object _ htarget => ?_
  have hsink : s.target (.makeLogger id console options subscriber) =
      some (configure object options).1.console.sink := by
    rw [htarget, configure, console_setTimeFormats]
    rfl
  refine ⟨List.forall_mem_cons.2 ⟨rfl, List.forall_mem_singleton.2 ?_⟩, ⟨[], rfl⟩,
    fun _ => isAboutFilter_setTimeFormats _ _⟩
  cases subscriber with
  | true => exact hsink
  | false => exact hsink

theorem effect_of_request? {request : Filter.Request} (h : command.request? = some request) :
    ∃ id answer, s.effect command = s.askFilters request id answer := by
  cases command with
  | requestFilter | cloneFilter =>
      cases h
      rw [effect]
      exact ⟨_, _, rfl⟩
  | setMode id mode =>
      cases mode with
      | none => cases h
      | some mode =>
          cases h
          rw [effect]
          exact ⟨_, _, rfl⟩
  | _ => cases h

/-- Every command does only what it may. -/
theorem isAllowed_effect (s : Session) (command : Command) :
    (s.effect command).IsAllowed s command := by
  cases command with
  | openConsole => exact isAllowed_openConsole _ _
  | askIndentStep | compareSinks | showRegistry | addGuarded => exact isAllowed_answer _
  | compareFilters =>
      rw [effect, compareFilters]
      split <;> exact isAllowed_answer _
  | indent | outdent =>
      refine isAllowed_shiftConsole (fun _ => ?_) _ ?_ <;> rfl
  | showConsole | render | showFilled | showRecord =>
      refine isAllowed_withObject rfl fun _ _ _ => ?_
      exact isAllowed_answer _
  | print => exact isAllowed_print _ _ _ _
  | makeStencil => exact isAllowed_makeStencil _ _ _
  | writeRendered | writeFilled | log | emit =>
      refine isAllowed_withObject rfl fun _ _ htarget => ?_
      exact isAllowed_deliverTo htarget _ _
  | lookup style => exact ⟨List.forall_mem_nil _, ⟨[style], rfl⟩, fun _ => isAboutFilter_lookup⟩
  | lookupAll styles =>
      exact ⟨List.forall_mem_nil _, ⟨styles, lookupAllFrom_fst 0 styles s.cache⟩,
        fun _ => List.forall_mem_nil _⟩
  | write =>
      rw [effect]
      exact isAllowed_deliverTo rfl _ _
  | takeMemory | showMemory | askEmpty | appendMemory =>
      rw [effect]
      exact isAllowed_onMemory rfl _
  | requestFilter | cloneFilter =>
      exact ⟨List.forall_mem_singleton.2 rfl, ⟨[], rfl⟩, nofun⟩
  | setMode id mode =>
      cases mode with
      | none =>
          refine isAllowed_withFilter rfl fun _ _ => ?_
          exact isAllowed_answer _
      | some mode => exact ⟨List.forall_mem_singleton.2 rfl, ⟨[], rfl⟩, nofun⟩
  | filter =>
      refine isAllowed_withFilter rfl fun _ _ => ?_
      exact isAllowed_answer _
  | writeFilteredText | writeFiltered | writeAllFiltered =>
      refine isAllowed_withFilter rfl fun _ htarget => ?_
      exact isAllowed_deliverTo htarget _ _
  | makeLogger => exact isAllowed_makeLogger _ _ _ _
  | makeSubscriber =>
      refine isAllowed_withObject rfl fun _ _ htarget => isAllowed_changes ?_ ?_ _
      · rfl
      · exact htarget
  | installLogger id =>
      refine isAllowed_withObject rfl fun logger hlogger _ => isAllowed_changes ?_ ?_ _
      · rfl
      · exact ⟨id, logger, rfl, hlogger, rfl⟩
  | installSubscriber =>
      refine isAllowed_withObject rfl fun _ _ _ => isAllowed_change ?_ _
      rfl

end

end

end TerminalDecoration.Session
