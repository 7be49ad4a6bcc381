/-
# Refused installations

A logger that cannot be installed is gone, but the limit that it has set stays. All that is done
later does the same as if nothing had been tried, and causes the same reports. But until another
logger is to be installed, those are seen that the refused logger admits, in place of those that the
limit before it admits. So an installation that fails leaves a trace, unless both limits admit the
same of the levels at which anything is reported.
-/

import TerminalDecoration.Log.PlainTimes
import TerminalDecoration.Proofs.Session.Agreement
import TerminalDecoration.Proofs.Session.Lookups

namespace TerminalDecoration

/-- Reports are of two levels. -/
theorem Diagnostic.level_mem (report : Diagnostic) : report.level ∈ [Log.Level.debug, .trace] := by
  cases report with
  | parsing => exact List.mem_cons_of_mem _ List.mem_cons_self
  | _ => exact List.mem_cons_self

namespace Session

section

variable [Log.TimeLibrary]

/-! ## The reports of a run -/

/-- What each command of a run causes to be reported, seen or not. -/
def raised (s : Session) (commands : List Command) : List (List Diagnostic) :=
  (s.trace commands).map fun entry => (entry.1.step entry.2).reports

/-- What is seen of the reports of each command of a run. -/
def shown (s : Session) (commands : List Command) : List (List Diagnostic) :=
  (s.trace commands).map fun entry => entry.1.seen (entry.1.step entry.2)

/-- No command of a run is about a logger of this name while there is none. -/
def NeedsNone (id : Handle) (s : Session) (commands : List Command) : Prop :=
  ∀ entry ∈ s.trace commands, entry.2.subject = .object .logger id →
    (entry.1.loggers.get? id).isSome

instance (id : Handle) (s : Session) (commands : List Command) :
    Decidable (NeedsNone id s commands) :=
  inferInstanceAs (Decidable (∀ _ ∈ s.trace commands, _))

namespace NeedsNone

variable {id : Handle} {s : Session} {command : Command} {commands : List Command}
  (h : NeedsNone id s (command :: commands))

include h

theorem head : command.subject = .object .logger id → (s.loggers.get? id).isSome := by
  rw [NeedsNone, trace] at h
  exact h (s, command) List.mem_cons_self

theorem tail (hends : (s.step command).answer.isEndless = false) :
    NeedsNone id (s.step command).session commands := by
  rw [NeedsNone, trace_cons_of_ends _ hends] at h
  exact fun entry hentry => h entry (List.mem_cons_of_mem _ hentry)

end NeedsNone

/-- Commands that are not about the logger need none. -/
theorem needsNone_of_subject_ne {id : Handle} {s : Session} {commands : List Command}
    (h : ∀ command ∈ commands, command.subject ≠ .object .logger id) : NeedsNone id s commands := by
  intro entry hentry huses
  exact absurd huses (h entry.2 (snd_mem_of_mem_trace hentry))

/-- The reports that a limit admits. -/
def admitted (limit : Log.Limit) (reports : List Diagnostic) : List Diagnostic :=
  reports.filter fun report => limit.admits report.level

omit [Log.TimeLibrary] in
theorem admitted_congr {limit limit' : Log.Limit}
    (h : ∀ level ∈ [Log.Level.debug, .trace], limit.admits level = limit'.admits level) :
    admitted limit = admitted limit' := by
  funext reports
  exact List.filter_congr fun report _ => h report.level report.level_mem

omit [Log.TimeLibrary] in
/-- Where two limits admit the same reports, they admit the same of their levels. -/
theorem admits_eq_of_admitted_eq {limit limit' : Log.Limit} {reports : List Diagnostic}
    (h : admitted limit reports = admitted limit' reports) (report : Diagnostic)
    (hreport : report ∈ reports) : limit.admits report.level = limit'.admits report.level := by
  have hmem (limit : Log.Limit) :
      report ∈ admitted limit reports ↔ limit.admits report.level = true := by
    rw [admitted, List.mem_filter]
    exact and_iff_right hreport
  rw [Bool.eq_iff_iff, ← hmem, ← hmem, h]

/-- The empty name is never kept, so that looking it up causes a report of each level. -/
theorem shown_lookup_nil {s : Session} (hsound : s.cache.IsSound) :
    s.shown [.lookup []] = [admitted s.limit [.parsing [], .refused .empty]] := by
  have hread : Style.ofName [] = .error .empty := rfl
  have hmiss : s.cache.find? [] = none := by
    cases hfind : s.cache.find? [] with
    | none => rfl
    | some style =>
        have hkept := hsound.ofName_of_find? hfind
        rw [hread] at hkept
        cases hkept
  have hends : (s.step (.lookup [])).answer.isEndless = false := by
    rw [step, effect, lookupStyle, Style.lookup_of_refused hmiss hread]
    rfl
  rw [shown, trace_cons_of_ends _ hends, trace, List.map_singleton, seen, step, effect, lookupStyle,
    Style.lookup_of_refused hmiss hread]
  rfl

/-- So one look-up tells limits apart. -/
theorem admits_eq_of_shown_lookup_nil {s s' : Session} (hsound : s.cache.IsSound)
    (hsound' : s'.cache.IsSound) (h : s.shown [.lookup []] = s'.shown [.lookup []]) :
    ∀ level ∈ [Log.Level.debug, .trace], s.limit.admits level = s'.limit.admits level := by
  rw [shown_lookup_nil hsound, shown_lookup_nil hsound', List.cons.injEq] at h
  intro level hlevel
  rcases List.mem_cons.1 hlevel with rfl | htrace
  · exact admits_eq_of_admitted_eq h.1 (.refused .empty) (by simp)
  · rw [List.mem_singleton.1 htrace]
    exact admits_eq_of_admitted_eq h.1 (.parsing []) (by simp)

section

variable {s : Session}

/-! ## Loggers that are installed -/

theorem step_installLogger {id : Handle} {logger : Log.Logger}
    (h : s.loggers.get? id = some logger) :
    s.step (.installLogger id) =
      ⟨{ s with limit := logger.limit, loggers := s.loggers.erase id },
        .notInstalled .logger logger.limit, []⟩ := by
  rw [step, effect, installLogger, withObject_of_get? .logger h]
  rfl

/-- Where there is no logger to install, nothing happens. -/
theorem session_step_installLogger_of_none {id : Handle} (h : s.loggers.get? id = none) :
    (s.step (.installLogger id)).session = s := by
  have hget : (s.table .logger).get? id = none := h
  rw [step, effect, installLogger, withObject, hget]
  rfl

/-! ## Sessions that differ in their limits -/

/-- The second session is the first under another limit, and it may lack one logger. -/
def IsMatchedBy (s : Session) (id : Handle) (s' : Session) : Prop :=
  ∃ limit loggers, s.loggers.MayLack id loggers ∧
    s' = { s with limit := limit, loggers := loggers }

namespace IsMatchedBy

variable {s' : Session} {id : Handle}

omit [Log.TimeLibrary] in
/-- A change leads to sessions that match. -/
theorem apply (h : s.IsMatchedBy id s') (change : Change) :
    (s.apply change).IsMatchedBy id (s'.apply change) := by
  obtain ⟨limit, loggers, hloggers, rfl⟩ := h
  cases change with
  | limit limit => exact ⟨limit, loggers, hloggers, rfl⟩
  | probed | sink | filter => exact ⟨limit, loggers, hloggers, rfl⟩
  | put kind key object =>
      cases kind with
      | console | stencil | subscriber => exact ⟨limit, loggers, hloggers, rfl⟩
      | logger => exact ⟨limit, _, hloggers.insert key object, rfl⟩
  | remove kind key =>
      cases kind with
      | console | stencil | subscriber => exact ⟨limit, loggers, hloggers, rfl⟩
      | logger => exact ⟨limit, _, hloggers.erase key, rfl⟩

omit [Log.TimeLibrary] in
theorem foldl_apply (h : s.IsMatchedBy id s') (changes : List Change) :
    (changes.foldl Session.apply s).IsMatchedBy id (changes.foldl Session.apply s') := by
  induction changes generalizing s s' with
  | nil => exact h
  | cons change changes ih => exact ih (h.apply change)

variable {command : Command}

omit [Log.TimeLibrary] in
/-- A logger that is there when a command is about it is the same in both sessions. -/
theorem get?_loggers_eq (h : s.IsMatchedBy id s')
    (huses : command.subject = .object .logger id → (s'.loggers.get? id).isSome)
    (key : Handle) (hsubject : command.subject = .object .logger key) :
    s'.loggers.get? key = s.loggers.get? key := by
  obtain ⟨limit, loggers, hloggers, rfl⟩ := h
  obtain hsame | ⟨rfl, hnone⟩ := hloggers key
  · exact hsame
  · have hsome : (loggers.get? key).isSome := huses hsubject
    rw [hnone] at hsome
    cases hsome

omit [Log.TimeLibrary] in
/-- What a command is about, it finds in both sessions. -/
theorem readsSame (h : s.IsMatchedBy id s')
    (huses : command.subject = .object .logger id → (s'.loggers.get? id).isSome) :
    s.ReadsSame command s' := by
  have hlogger := h.get?_loggers_eq huses
  obtain ⟨limit, loggers, -, rfl⟩ := h
  refine ⟨rfl, fun _ => rfl, ?_⟩
  rw [FindsSame]
  split
  · trivial
  · rfl
  · rename_i kind key hsubject
    refine ⟨?_, fun _ _ => rfl⟩
    cases kind with
    | console | stencil | subscriber => rfl
    | logger => exact hlogger key hsubject
  · exact ⟨rfl, fun _ _ => rfl⟩

/-- A command does the same in both sessions and causes the same reports. -/
theorem step (h : s.IsMatchedBy id s')
    (huses : command.subject = .object .logger id → (s'.loggers.get? id).isSome) :
    (s.step command).session.IsMatchedBy id (s'.step command).session ∧
      (s'.step command).answer.isEndless = (s.step command).answer.isEndless ∧
      (s'.step command).reports = (s.step command).reports := by
  have hagrees := agreesWith_effect (h.readsSame huses)
  have hreports : s.ReportsSame s' := by
    obtain ⟨limit, loggers, -, rfl⟩ := h
    exact ⟨rfl, rfl, rfl⟩
  obtain ⟨hcache, hsame⟩ := hagrees.rest_eq hreports
  refine ⟨?_, hagrees.isEndless_eq, hsame⟩
  have hboth := h.foldl_apply (s.effect command).changes
  rw [Session.step, Session.step, hcache, hagrees.changes_eq, hreports.cache_eq]
  obtain ⟨limit, loggers, hloggers, heq⟩ := hboth
  exact ⟨limit, loggers, hloggers, by rw [heq]⟩

/-- A command leaves both limits as they are, unless it is to install a logger, which then sets
both. -/
theorem limit_step (h : s.IsMatchedBy id s')
    (huses : command.subject = .object .logger id → (s'.loggers.get? id).isSome) :
    (s.step command).session.limit = s.limit ∧ (s'.step command).session.limit = s'.limit ∨
      (∃ id', command = .installLogger id') ∧
        (s'.step command).session.limit = (s.step command).session.limit := by
  by_cases hinstall : ∃ key, command = .installLogger key
  · obtain ⟨key, rfl⟩ := hinstall
    have hget := h.get?_loggers_eq huses key rfl
    cases hlogger : s.loggers.get? key with
    | none =>
        rw [session_step_installLogger_of_none hlogger,
          session_step_installLogger_of_none (hget.trans hlogger)]
        exact Or.inl ⟨rfl, rfl⟩
    | some logger =>
        rw [step_installLogger hlogger, step_installLogger (hget.trans hlogger)]
        exact Or.inr ⟨⟨key, rfl⟩, rfl⟩
  · rw [not_exists] at hinstall
    exact Or.inl ⟨Session.limit_step hinstall, Session.limit_step hinstall⟩

variable {commands : List Command}

/-- A run causes the same reports in both sessions. -/
theorem raised_eq (h : s.IsMatchedBy id s') (hneeds : NeedsNone id s' commands) :
    s'.raised commands = s.raised commands := by
  induction commands generalizing s s' with
  | nil => rfl
  | cons command commands ih =>
      obtain ⟨hnext, hboth, hreports⟩ := h.step (NeedsNone.head hneeds)
      cases hends : (s.step command).answer.isEndless with
      | false =>
          rw [hends] at hboth
          rw [raised, raised, trace_cons_of_ends _ hends, trace_cons_of_ends _ hboth]
          exact congrArg₂ List.cons hreports (ih hnext (NeedsNone.tail hneeds hboth))
      | true =>
          rw [hends] at hboth
          rw [raised, raised, trace_cons_of_isEndless _ hends, trace_cons_of_isEndless _ hboth]
          exact congrArg (fun reports => [reports]) hreports

/-- What is seen of a run in both sessions differs at most up to a command that is to install a
logger. Up to there each session shows what its limit admits. -/
theorem exists_shown_eq (h : s.IsMatchedBy id s') (hneeds : NeedsNone id s' commands) :
    ∃ n tail,
      s'.shown commands = ((s.raised commands).take n).map (admitted s'.limit) ++ tail ∧
      s.shown commands = ((s.raised commands).take n).map (admitted s.limit) ++ tail ∧
      ((∀ id', .installLogger id' ∉ commands) → tail = []) := by
  induction commands generalizing s s' with
  | nil => exact ⟨0, [], rfl, rfl, fun _ => rfl⟩
  | cons command commands ih =>
      have huses := NeedsNone.head hneeds
      obtain ⟨hnext, hboth, hreports⟩ := h.step huses
      have hseen' : s'.seen (s'.step command) = admitted s'.limit (s.step command).reports :=
        congrArg (admitted s'.limit) hreports
      cases hends : (s.step command).answer.isEndless with
      | true =>
          rw [hends] at hboth
          rw [shown, shown, raised, trace_cons_of_isEndless _ hends,
            trace_cons_of_isEndless _ hboth]
          exact ⟨1, [], congrArg (fun reports => [reports]) hseen', rfl, fun _ => rfl⟩
      | false =>
          rw [hends] at hboth
          obtain ⟨n, tail, hshown', hshown, htail⟩ := ih hnext (NeedsNone.tail hneeds hboth)
          rw [shown, shown, raised, trace_cons_of_ends _ hends, trace_cons_of_ends _ hboth]
          obtain ⟨hlimit, hlimit'⟩ | ⟨⟨id', rfl⟩, hlimit⟩ := h.limit_step huses
          · rw [hlimit'] at hshown'
            rw [hlimit] at hshown
            refine ⟨n + 1, tail, congrArg₂ List.cons hseen' hshown',
              congrArg₂ List.cons rfl hshown, fun hnone => htail fun id' hmem => ?_⟩
            exact hnone id' (List.mem_cons_of_mem _ hmem)
          · -- From here on the limits are the same, so the rest is shown in both sessions.
            rw [hlimit, ← hshown] at hshown'
            refine ⟨1, (s.step (.installLogger id')).session.shown commands,
              congrArg₂ List.cons hseen' hshown', rfl, fun hnone => ?_⟩
            exact absurd List.mem_cons_self (hnone id')

end IsMatchedBy

end

/-- An installation of a logger that fails takes the logger away and sets the limit to that of the
logger; it does nothing else. Take any run on from there, and the same run with the installation left
out. Both cause the same reports. Up to a command that is to install another logger, which sets the
limit again, each shows those that its limit admits; from then on they show the same. So no run shows
a difference exactly if the limit of the logger admits the same of the levels of reports as the
limit before. -/
theorem failed_installation_sets_limit (terminal : Terminal) (sinks : Table SinkId Sink)
    (history : List Command) {id : Handle} {logger : Log.Logger}
    (hlogger : ((start terminal sinks).run history).loggers.get? id = some logger) :
    let s := (start terminal sinks).run history
    let failed := (s.step (.installLogger id)).session
    (s.step (.installLogger id)).answer = .notInstalled .logger logger.limit ∧
    (s.step (.installLogger id)).reports = [] ∧
    failed = { s with limit := logger.limit, loggers := s.loggers.erase id } ∧
    (∀ commands, NeedsNone id failed commands →
      failed.raised commands = s.raised commands ∧
      ∃ n tail,
        failed.shown commands = ((s.raised commands).take n).map (admitted logger.limit) ++ tail ∧
        s.shown commands = ((s.raised commands).take n).map (admitted s.limit) ++ tail ∧
        ((∀ id', .installLogger id' ∉ commands) → tail = [])) ∧
    ((∀ commands, NeedsNone id failed commands → failed.shown commands = s.shown commands) ↔
      ∀ level ∈ [Log.Level.debug, .trace], logger.limit.admits level = s.limit.admits level) := by
  intro s failed
  have hstep : s.step (.installLogger id) =
      ⟨{ s with limit := logger.limit, loggers := s.loggers.erase id },
        .notInstalled .logger logger.limit, []⟩ := step_installLogger hlogger
  have hfailed : failed = { s with limit := logger.limit, loggers := s.loggers.erase id } :=
    congrArg Step.session hstep
  have hlimit : failed.limit = logger.limit := congrArg Session.limit hfailed
  have hmatched : s.IsMatchedBy id failed :=
    ⟨logger.limit, _, s.loggers.mayLack_erase id, hfailed⟩
  have hshown {commands : List Command} (hneeds : NeedsNone id failed commands) :=
    hmatched.exists_shown_eq hneeds
  rw [hlimit] at hshown
  refine ⟨congrArg Step.answer hstep, congrArg Step.reports hstep, hfailed,
    fun commands hneeds => ⟨hmatched.raised_eq hneeds, hshown hneeds⟩, ?_, ?_⟩
  · intro hsame
    have hsound : s.cache.IsSound := isSound_cache_run_start terminal sinks history
    have hsound' : failed.cache.IsSound := hfailed ▸ hsound
    have hneeds : NeedsNone id failed [.lookup []] :=
      needsNone_of_subject_ne (List.forall_mem_singleton.2 Subject.noConfusion)
    have hempty := hsame [.lookup []] hneeds
    rw [← hlimit]
    exact admits_eq_of_shown_lookup_nil hsound' hsound hempty
  · intro hsame commands hneeds
    obtain ⟨n, tail, hfailed, hs, -⟩ := hshown hneeds
    rw [hfailed, hs, admitted_congr hsame]

end

section

open scoped Log.PlainTimes

/-- A console and a logger of it with this limit. -/
def withLogger (limit : Log.Limit) : List Command :=
  [.openConsole "c" ⟨some (.named "x"), none, none, none, none⟩,
    .makeLogger "l" "c" ⟨some limit, none, none, none, []⟩ false]

/-- After the refused installation of a logger that admits nothing, a refused name is no longer
reported. -/
theorem failed_installation_hides_reports :
    let s := (start .forced (.ofList [(.named "x", .memory [])])).run (withLogger .off)
    let failed := (s.step (.installLogger "l")).session
    let commands := [Command.lookup "mauve".toList]
    NeedsNone "l" failed commands ∧
      (s.step (.installLogger "l")).answer = .notInstalled .logger .off ∧
      failed.limit ≠ s.limit ∧
      s.shown commands =
        [[.parsing "mauve".toList, .refused (.unknownAttribute "mauve".toList "mauve".toList)]] ∧
      failed.shown commands = [[]] := by
  intro s failed commands
  exact ⟨by decide +kernel, rfl, by decide +kernel, by decide +kernel, by decide +kernel⟩

/-- The name of the refused logger is given to another one, which is refused, too, and lifts the
limit again. Only the first of the two look-ups is reported in less detail. -/
theorem failed_installation_sets_limit_twice :
    let sinks : Table SinkId Sink := .ofList [(.named "x", .memory [])]
    let s := (start .forced sinks).run (withLogger (.upTo .debug))
    let failed := (s.step (.installLogger "l")).session
    let commands := .lookup "mauve".toList :: withLogger (.upTo .trace) ++
      [.installLogger "l", .lookup "teal".toList]
    NeedsNone "l" failed commands ∧ failed.limit = .upTo .debug ∧
      failed.raised commands = s.raised commands ∧
      (∃ n tail,
        failed.shown commands =
          ((s.raised commands).take n).map (admitted (.upTo .debug)) ++ tail ∧
        s.shown commands = ((s.raised commands).take n).map (admitted (.upTo .trace)) ++ tail) ∧
      ¬ ∀ commands, NeedsNone "l" failed commands → failed.shown commands = s.shown commands := by
  intro sinks s failed commands
  obtain ⟨logger, hlogger, hlimit⟩ : ∃ logger, s.loggers.get? "l" = some logger ∧
      logger.limit = .upTo .debug := ⟨_, rfl, rfl⟩
  -- When the name is used again, there is a logger of it again.
  have hneeds : NeedsNone "l" failed commands := by decide +kernel
  obtain ⟨-, -, hfailed, hruns, hsame⟩ :=
    failed_installation_sets_limit .forced sinks (withLogger (.upTo .debug)) hlogger
  obtain ⟨hraised, n, tail, hshown', hshown, -⟩ := hruns commands hneeds
  rw [hlimit] at hsame hshown'
  refine ⟨hneeds, ?_, hraised, ⟨n, tail, hshown', hshown⟩, fun hall => ?_⟩
  · exact (congrArg Session.limit hfailed).trans hlimit
  · have htrace := hsame.1 hall .trace (by simp)
    cases htrace

end

end Session

end TerminalDecoration
