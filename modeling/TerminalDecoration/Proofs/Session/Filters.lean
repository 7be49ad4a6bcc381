/-
# What can be seen of filters

Whatever a session did, its history of requests and settings says which filter a name stands for,
how many filters a registry has and in which mode each of them is. It also says what was reported:
each filter once, and each change of its mode, so that the reports of a filter lead from the mode in
which it began to the mode in which it is.
-/

import TerminalDecoration.Log.PlainTimes
import TerminalDecoration.Proofs.Session.Run

namespace TerminalDecoration

namespace Filter.History

/-- What these commands ask of filters. -/
def ofCommands (commands : List Session.Command) : History :=
  ofRequests (commands.filterMap Session.Command.request?)

/-- The history with one command more. -/
def afterCommand (history : History) (command : Session.Command) : History :=
  history.afterAll command.request?.toList

/-- What a command causes to be reported of filters. -/
def reportsOf (history : History) (command : Session.Command) : List Diagnostic :=
  (command.request?.map history.reports).getD []

/-- The filter to which a command does something. -/
def targetOf (history : History) (command : Session.Command) : Option Origin :=
  command.request?.bind history.target?

end Filter.History

namespace Session

open TerminalDecoration.Filter (History Origin)

/-! ## Reports of one filter -/

/-- The changes lead from the first mode to the second: each begins where the one before it ended,
and none ends where it began. -/
def Leads : Filter.Mode → List (Filter.Mode × Filter.Mode) → Filter.Mode → Prop
  | first, [], last => first = last
  | first, change :: changes, last =>
    change.1 = first ∧ change.1 ≠ change.2 ∧ Leads change.2 changes last

theorem Leads.concat {first last next : Filter.Mode} {changes : List (Filter.Mode × Filter.Mode)}
    (h : Leads first changes last) (hne : last ≠ next) :
    Leads first (changes ++ [(last, next)]) next := by
  induction changes generalizing first with
  | nil => exact ⟨Eq.symm h, hne, rfl⟩
  | cons change changes ih => exact ⟨h.1, h.2.1, ih h.2.2⟩

/-- The reports begin with the addition of the filter, which is there exactly if the filter was
requested, and the others lead from the mode in which it began to the mode in which it is. -/
def TellOf (reports : List Diagnostic) (origin : Origin) (history : History) : Prop :=
  ∃ changes : List (Filter.Mode × Filter.Mode),
    reports =
      (if origin ∈ history.requested then
        .filterAdded origin.sink ::
          changes.map fun change => .modeChanged origin.sink change.1 change.2
      else []) ∧
    Leads .off changes (history.mode origin)

namespace TellOf

variable {reports : List Diagnostic} {origin : Origin} {history : History}

theorem blank (origin : Origin) : TellOf [] origin .blank := ⟨[], rfl, rfl⟩

/-- A request adds the filter if it is the first. -/
theorem get (h : TellOf reports origin history)
    (hmode : origin ∉ history.requested → history.mode origin = .off) (id : Handle) :
    TellOf (reports ++ history.reports (.get origin.registry origin.sink id)) origin
      (history.name id origin) := by
  have hrequested : origin ∈ (history.name id origin).requested := List.mem_cons_self
  obtain ⟨changes, rfl, hleads⟩ := h
  by_cases hmem : origin ∈ history.requested
  · refine ⟨changes, ?_, hleads⟩
    rw [History.reports, if_pos hmem, if_pos hmem, if_pos hrequested, List.append_nil]
  · refine ⟨[], ?_, (hmode hmem).symm⟩
    rw [History.reports, if_neg hmem, if_neg hmem, if_pos hrequested]
    rfl

/-- A setting goes on from the mode in which the filter is. -/
theorem set (h : TellOf reports origin history) {filter : Handle}
    (hfilter : history.origin? filter = some origin) (mode : Filter.Mode) :
    TellOf (reports ++ history.reports (.set filter mode)) origin (history.set origin mode) := by
  have hmem : origin ∈ history.requested := History.mem_requested_of_origin? hfilter
  have hrequested : origin ∈ (history.set origin mode).requested := hmem
  have hmode : (history.set origin mode).mode origin = mode := by
    rw [History.mode_set, if_pos rfl]
  obtain ⟨changes, rfl, hleads⟩ := h
  rw [History.reports, hfilter, if_pos hmem]
  dsimp only
  by_cases hsame : history.mode origin = mode
  · refine ⟨changes, ?_, ?_⟩
    · rw [if_pos hsame, if_pos hrequested, List.append_nil]
    · rw [hmode, ← hsame]
      exact hleads
  · refine ⟨changes ++ [(history.mode origin, mode)], ?_, ?_⟩
    · rw [if_neg hsame, if_pos hrequested, List.map_append, List.cons_append]
      rfl
    · rw [hmode]
      exact hleads.concat hsame

/-- Where neither the requests for the filter nor its settings are others, the same is told. -/
theorem congr (h : TellOf reports origin history) {history' : History}
    (hrequested : origin ∈ history'.requested ↔ origin ∈ history.requested)
    (hmode : history'.mode origin = history.mode origin) : TellOf reports origin history' := by
  obtain ⟨changes, rfl, hleads⟩ := h
  refine ⟨changes, if_congr hrequested.symm rfl rfl, ?_⟩
  rw [hmode]
  exact hleads

/-- Whatever is asked, what is reported of the filter goes on to tell its history. -/
theorem after (h : TellOf reports origin history)
    (hmode : origin ∉ history.requested → history.mode origin = .off)
    (request : Filter.Request) :
    TellOf
      (reports ++ if history.target? request = some origin then history.reports request else [])
      origin (history.after request) := by
  cases request with
  | get registry sink id =>
      rw [History.target?]
      by_cases htarget : (⟨registry, sink⟩ : Origin) = origin
      · subst htarget
        rw [if_pos rfl]
        exact h.get hmode id
      · rw [if_neg fun heq => htarget (Option.some.inj heq), List.append_nil]
        exact h.congr (List.mem_cons.trans (or_iff_right (Ne.symm htarget))) rfl
  | copy filter id =>
      have hreports : history.reports (.copy filter id) = [] := rfl
      rw [hreports, ite_self, List.append_nil, History.after]
      cases hfilter : history.origin? filter with
      | none => exact h
      | some other =>
          refine h.congr ⟨fun hmem => ?_, List.mem_cons_of_mem _⟩ rfl
          rcases List.mem_cons.1 hmem with rfl | hmem
          · exact History.mem_requested_of_origin? hfilter
          · exact hmem
  | set filter mode =>
      rw [History.target?]
      cases hfilter : history.origin? filter with
      | none =>
          rw [if_neg (Option.some_ne_none origin).symm, List.append_nil, History.after, hfilter]
          exact h
      | some other =>
          rw [History.after_set hfilter]
          by_cases hother : other = origin
          · subst hother
            rw [if_pos rfl]
            exact h.set hfilter mode
          · rw [if_neg fun heq => hother (Option.some.inj heq), List.append_nil]
            exact h.congr Iff.rfl (by rw [History.mode_set, if_neg (Ne.symm hother)])

end TellOf

/-! ## What is seen of commands -/

section

variable [Log.TimeLibrary] {s : Session} {history : History}

/-- What is seen of the requests and settings of one filter in the course of a run that goes on from
a history. -/
def reportsAbout (origin : Origin) : History → List (Session × Command) → List Diagnostic
  | _, [] => []
  | history, (s, command) :: course =>
    (if history.targetOf command = some origin then s.seen (s.step command) else []) ++
      reportsAbout origin (history.afterCommand command) course

theorem isRecordedBy_step (h : s.filters.IsRecordedBy history) (command : Command) :
    (s.step command).session.filters.IsRecordedBy (history.afterCommand command) := by
  rw [filters_step]
  exact h.afterAll _

/-- What a command reports of filters is what the history says. -/
theorem reports_step (h : s.filters.IsRecordedBy history) (command : Command) :
    (s.step command).reports.filter Diagnostic.isAboutFilter = history.reportsOf command := by
  rw [History.reportsOf]
  cases hrequest : command.request? with
  | none =>
      rw [Option.map_none, Option.getD_none, List.filter_eq_nil_iff]
      intro report hreport
      rw [(isAllowed_effect s command).reports hrequest report hreport]
      exact Bool.false_ne_true
  | some request =>
      rw [reports_step_of_request? hrequest, (h.step request).2, Option.map_some,
        Option.getD_some, List.filter_eq_self]
      exact fun report => History.isAboutFilter_of_mem_reports

/-- Where debugging is on, all of it is seen. -/
theorem filter_seen (h : s.filters.IsRecordedBy history)
    (hdebug : s.limit.admits .debug = true) (command : Command) :
    (s.seen (s.step command)).filter Diagnostic.isAboutFilter = history.reportsOf command := by
  rw [seen, List.filter_comm, reports_step h, List.filter_eq_self]
  intro report hreport
  have habout : report.isAboutFilter = true := by
    rw [← reports_step h] at hreport
    exact (List.mem_filter.1 hreport).2
  rw [Diagnostic.level_of_isAboutFilter habout]
  exact hdebug

theorem seen_of_request? (h : s.filters.IsRecordedBy history)
    (hdebug : s.limit.admits .debug = true) {command : Command} {request : Filter.Request}
    (hrequest : command.request? = some request) :
    s.seen (s.step command) = history.reports request := by
  rw [seen, reports_step_of_request? hrequest, (h.step request).2, List.filter_eq_self]
  intro report hreport
  rw [Diagnostic.level_of_isAboutFilter (History.isAboutFilter_of_mem_reports hreport)]
  exact hdebug

/-- Whatever a command does, what is seen of the filter goes on to tell its history. -/
theorem TellOf.step {reports : List Diagnostic} {origin : Origin}
    (htold : TellOf reports origin history) (h : s.filters.IsRecordedBy history)
    (hdebug : s.limit.admits .debug = true) (command : Command) :
    TellOf
      (reports ++
        if history.targetOf command = some origin then s.seen (s.step command) else [])
      origin (history.afterCommand command) := by
  rw [History.targetOf, History.afterCommand]
  cases hrequest : command.request? with
  | none =>
      rw [Option.bind_none, if_neg (Option.some_ne_none origin).symm, List.append_nil]
      exact htold
  | some request =>
      rw [Option.bind_some, seen_of_request? h hdebug hrequest]
      exact htold.after h.mode_of_not_requested request

/-- Where debugging is on all the time, what is seen of a filter tells its history. -/
theorem TellOf.run {reports : List Diagnostic} {origin : Origin}
    (htold : TellOf reports origin history) (h : s.filters.IsRecordedBy history)
    {commands : List Command}
    (hdebug : ∀ entry ∈ s.trace commands, entry.1.limit.admits .debug = true) :
    TellOf (reports ++ reportsAbout origin history (s.trace commands)) origin
      (history.afterAll ((s.carriedOut commands).filterMap Command.request?)) := by
  induction commands generalizing s history reports with
  | nil =>
      rw [trace, reportsAbout, List.append_nil]
      exact htold
  | cons command commands ih =>
      have hfirst (more : List Command) :
          history.afterAll ((command :: more).filterMap Command.request?) =
            (history.afterCommand command).afterAll (more.filterMap Command.request?) := by
        rw [History.afterCommand]
        cases hrequest : command.request? <;> simp [hrequest, History.afterAll]
      cases hends : (s.step command).answer.isEndless with
      | false =>
          rw [trace_cons_of_ends commands hends] at hdebug ⊢
          rw [List.forall_mem_cons] at hdebug
          rw [carriedOut_cons_of_ends commands hends, hfirst, reportsAbout, ← List.append_assoc]
          exact ih (htold.step h hdebug.1 command) (isRecordedBy_step h command) hdebug.2
      | true =>
          rw [trace_cons_of_isEndless commands hends] at hdebug ⊢
          rw [carriedOut_cons_of_isEndless commands hends, hfirst, reportsAbout, reportsAbout,
            List.append_nil]
          exact htold.step h (hdebug _ List.mem_cons_self) command

/-! ## What a session shows -/

/-- A session shows of its filters what the history says. -/
structure ShowsFilters (s : Session) (history : History) : Prop where
  /-- Two names stand for one filter exactly if the same registry was asked for the same sink. -/
  compare : ∀ {id id' origin origin'}, history.origin? id = some origin →
    history.origin? id' = some origin' →
      (s.step (.compareFilters id id')).answer = .flag (origin = origin')
  /-- Exactly then every setting through one name shows through the other. -/
  share : ∀ {id id' origin origin'}, history.origin? id = some origin →
    history.origin? id' = some origin' →
      (origin = origin' ↔ ∀ mode,
        ((s.step (.setMode id (some mode))).session.step (.setMode id' none)).answer = .mode mode)
  /-- A registry has as many filters as it was asked for different sinks. -/
  size : ∀ registry, (s.step (.showRegistry registry)).answer =
    .registry (history.sinks registry).dedup.length (history.sinks registry).isEmpty
  /-- A filter is in the mode that it was set to last, under whatever name, and off if it was never
  set. -/
  mode : ∀ {id origin}, history.origin? id = some origin →
    (s.step (.setMode id none)).answer = .mode (history.mode origin)
  /-- A registry that is asked again gives the same filter in the same mode. -/
  again : ∀ registry sink id, (s.step (.requestFilter registry sink id)).answer =
    .filter (sink :: history.sinks registry).dedup.length false (history.mode ⟨registry, sink⟩) sink
  /-- No command but a setting changes the mode of a filter, nor does a setting of another. -/
  others : ∀ command {origin},
    (∀ id mode, command = .setMode id (some mode) → history.origin? id ≠ some origin) →
      ∀ id, (history.afterCommand command).origin? id = some origin →
        ((s.step command).session.step (.setMode id none)).answer = .mode (history.mode origin)

section

variable (h : s.filters.IsRecordedBy history)

include h

theorem answer_askMode {id : Handle} {origin : Origin}
    (hname : history.origin? id = some origin) :
    (s.step (.setMode id none)).answer = .mode (history.mode origin) := by
  rw [step, effect, withFilter, h.find?_eq, hname]
  rfl

theorem answer_compareFilters {id id' : Handle} {origin origin' : Origin}
    (hname : history.origin? id = some origin) (hname' : history.origin? id' = some origin') :
    (s.step (.compareFilters id id')).answer = .flag (origin = origin') := by
  obtain ⟨place, place', hplace, hplace', hiff⟩ := h.handles_eq_iff hname hname'
  rw [step, effect, compareFilters, hplace, hplace']
  exact congrArg Answer.flag (decide_eq_decide.2 hiff)

theorem answer_askMode_after_setMode {id id' : Handle} {origin origin' : Origin}
    (hname : history.origin? id = some origin) (hname' : history.origin? id' = some origin')
    (mode : Filter.Mode) :
    ((s.step (.setMode id (some mode))).session.step (.setMode id' none)).answer =
      .mode (if origin' = origin then mode else history.mode origin') := by
  have hafter : history.afterCommand (.setMode id (some mode)) = history.set origin mode :=
    History.after_set hname mode
  have hnext := isRecordedBy_step h (.setMode id (some mode))
  rw [hafter] at hnext
  have hasked : (history.set origin mode).origin? id' = some origin' := hname'
  rw [answer_askMode hnext hasked, History.mode_set]

/-- Two names stand for one filter exactly if every setting through the first shows through the
second. -/
theorem eq_iff_shares_mode {id id' : Handle} {origin origin' : Origin}
    (hname : history.origin? id = some origin) (hname' : history.origin? id' = some origin') :
    origin = origin' ↔ ∀ mode,
      ((s.step (.setMode id (some mode))).session.step (.setMode id' none)).answer =
        .mode mode := by
  simp only [answer_askMode_after_setMode h hname hname', Answer.mode.injEq]
  constructor
  · rintro rfl mode
    rw [if_pos rfl]
  · intro hall
    by_contra hne
    -- The mode of the other filter cannot be two modes at once.
    have hoff := hall .off
    have hplain := hall .plain
    rw [if_neg (Ne.symm hne)] at hoff hplain
    exact Filter.Mode.noConfusion (hoff.symm.trans hplain)

theorem answer_requestFilter (registry : Handle) (sink : SinkId) (id : Handle) :
    (s.step (.requestFilter registry sink id)).answer =
      .filter (sink :: history.sinks registry).dedup.length false (history.mode ⟨registry, sink⟩)
        sink := by
  have hnext := (h.step (.get registry sink id)).1
  have hname : (history.after (.get registry sink id)).origin? id = some ⟨registry, sink⟩ := by
    rw [History.after, History.origin?_name, if_pos rfl]
  have hsinks : (history.after (.get registry sink id)).sinks registry =
      sink :: history.sinks registry := by
    simp [History.after, History.name, History.sinks, History.requested]
  obtain ⟨hsize, hempty⟩ := hnext.size_registry registry
  rw [hsinks] at hsize hempty
  rw [step, effect, askFilters]
  dsimp only
  rw [hnext.find?_eq, hname, hsize, hempty]
  rfl

/-- A session that is recorded by a history shows what the history says. -/
theorem showsFilters_of_isRecordedBy : s.ShowsFilters history where
  compare := answer_compareFilters h
  share := eq_iff_shares_mode h
  size registry := by
    obtain ⟨hsize, hempty⟩ := h.size_registry registry
    rw [step, effect, hsize, hempty]
  mode := answer_askMode h
  again := answer_requestFilter h
  others := by
    intro command origin hnot id hname
    rw [answer_askMode (isRecordedBy_step h command) hname, History.afterCommand]
    cases hrequest : command.request? with
    | none => rfl
    | some request =>
        refine congrArg Answer.mode (History.mode_after_of_not_set fun filter mode hset => ?_)
        rw [hset] at hrequest
        cases command with
        | setMode filter' mode' =>
            cases mode' with
            | none => cases hrequest
            | some mode' =>
                cases hrequest
                exact hnot _ _ rfl
        | _ => cases hrequest

end

/-- What is seen in the course of a run tells the histories of the filters. -/
structure TellsFilters (s : Session) (commands : List Command) : Prop where
  /-- Each filter is reported once, by its first request, and the reports of its changes lead from
  off to its mode. -/
  each : ∀ origin, TellOf (reportsAbout origin .blank (s.trace commands)) origin
    (.ofCommands (s.carriedOut commands))
  /-- What is seen of filters in each step is what the history before it says. -/
  all : ∀ {before s' command after}, s.trace commands = before ++ (s', command) :: after →
    (s'.seen (s'.step command)).filter Diagnostic.isAboutFilter =
      (History.ofCommands (before.map Prod.snd)).reportsOf command

/-- What can be seen of the filters of a session is what the requests and settings so far say. And
where debugging is on all the time, so is what was seen of them in the course of the run. -/
theorem filters_of_any_history (terminal : Terminal) (sinks : Table SinkId Sink)
    (commands : List Command) :
    let first := start terminal sinks
    (first.run commands).ShowsFilters (.ofCommands (first.carriedOut commands)) ∧
      ((∀ entry ∈ first.trace commands, entry.1.limit.admits .debug = true) →
        first.TellsFilters commands) := by
  intro first
  have hfirst : first.filters.IsRecordedBy .blank := Filter.Store.isRecordedBy_empty
  have hrun (commands : List Command) : (first.run commands).filters.IsRecordedBy
      (.ofCommands (first.carriedOut commands)) := by
    rw [filters_run]
    exact hfirst.afterAll _
  refine ⟨showsFilters_of_isRecordedBy (hrun commands), fun hdebug => ⟨?each, ?all⟩⟩
  case each => exact fun origin => (TellOf.blank origin).run hfirst hdebug
  case all =>
    intro before s' command after htrace
    have hmem : (s', command) ∈ first.trace commands := by
      rw [htrace]
      simp
    obtain ⟨rfl, hout⟩ := run_of_trace_eq htrace
    have hbefore := hrun (before.map Prod.snd)
    rw [hout] at hbefore
    exact filter_seen hbefore (hdebug _ hmem) command

end

/-! ## One filter under three names -/

section

open scoped Log.PlainTimes

/-- One filter under three names, and another of the same sink. -/
def threeNames : List Command :=
  [.requestFilter "r" .output "p", .requestFilter "r" .output "q", .cloneFilter "p" "c",
    .setMode "p" (some .plain), .requestFilter "t" .output "u", .setMode "u" (some .plain),
    .setMode "c" (some .resolve)]

theorem filters_of_any_history_threeNames :
    let first := start .forced .empty
    let s := first.run threeNames
    (∀ entry ∈ first.trace threeNames, entry.1.limit.admits .debug = true) ∧
      (s.step (.compareFilters "c" "q")).answer = .flag true ∧
      (s.step (.compareFilters "c" "u")).answer = .flag false ∧
      (s.step (.showRegistry "r")).answer = .registry 1 false ∧
      (s.step (.setMode "q" none)).answer = .mode .resolve ∧
      TellOf (reportsAbout ⟨"r", .output⟩ .blank (first.trace threeNames)) ⟨"r", .output⟩
        (.ofCommands (first.carriedOut threeNames)) ∧
      reportsAbout ⟨"r", .output⟩ .blank (first.trace threeNames) =
        [.filterAdded .output, .modeChanged .output .off .plain,
          .modeChanged .output .plain .resolve] := by
  intro first s
  have hdebug : ∀ entry ∈ first.trace threeNames, entry.1.limit.admits .debug = true := by
    decide +kernel
  obtain ⟨hshows, htells⟩ := filters_of_any_history .forced .empty threeNames
  let history := History.ofCommands (first.carriedOut threeNames)
  have hc : history.origin? "c" = some ⟨"r", .output⟩ := by decide +kernel
  have hq : history.origin? "q" = some ⟨"r", .output⟩ := by decide +kernel
  have hu : history.origin? "u" = some ⟨"t", .output⟩ := by decide +kernel
  exact ⟨hdebug, hshows.compare hc hq, hshows.compare hc hu, hshows.size "r", hshows.mode hq,
    (htells hdebug).each _, by decide +kernel⟩

end

end Session

end TerminalDecoration
