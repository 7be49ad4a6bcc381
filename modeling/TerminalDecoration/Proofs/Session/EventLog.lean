/-
# Logs of events

A subscriber logs each event as the record that stands for it, so its log is the one that a logger
with the same settings writes of these records. The log has one line for each event that the limit
admits, in their order, and each line is delivered whatever became of those before it. A stricter
limit leaves lines out and changes none.
-/

import TerminalDecoration.Log.PlainTimes
import TerminalDecoration.Proofs.Log.Event
import TerminalDecoration.Proofs.Session.Run
import TerminalDecoration.Proofs.Sink.Course

namespace TerminalDecoration

open Text.Utf8 (encode)

namespace Log

/-! ## Limits -/

/-- The rank of the least weighty level that the limit admits. -/
def Limit.rank : Limit → Nat
  | off => 0
  | upTo level => level.rank

theorem Limit.admits_iff {limit : Limit} {level : Level} :
    limit.admits level = true ↔ level.rank ≤ limit.rank := by
  cases limit with
  | off => cases level <;> decide
  | upTo least => exact decide_eq_true_iff

/-- What a limit admits, a looser one admits, too. -/
theorem Limit.admits_of_rank_le {limit looser : Limit} (h : limit.rank ≤ looser.rank)
    {level : Level} (hadmits : limit.admits level = true) : looser.admits level = true :=
  admits_iff.2 (Nat.le_trans (admits_iff.1 hadmits) h)

/-! ## The lines of a log -/

/-- The record of an event has the texts of the event with blanks between as its message. -/
def Event.asRecord (event : Event) : Record :=
  ⟨event.time, event.level, List.intercalate [' '] event.parts, event.file, event.line⟩

theorem Event.record_eq (event : Event) : event.record = event.asRecord := by
  rw [record, text_eq_intercalate, asRecord]

namespace Logger

variable [TimeLibrary]

/-- The log of these events: the level and the line of each one that the limit admits. -/
def entries (logger : Logger) (events : List Event) : List (Level × List Char) :=
  (events.filter fun event => logger.limit.admits event.level).map fun event =>
    (event.level, logger.line event.asRecord)

/-- The log as the buffers that are delivered. -/
def buffers (logger : Logger) (events : List Event) : List (List UInt8) :=
  (logger.entries events).map fun entry => encode entry.2

theorem buffers_cons (logger : Logger) (event : Event) (events : List Event) :
    logger.buffers (event :: events) =
      (if logger.limit.admits event.level then [encode (logger.line event.asRecord)] else []) ++
        logger.buffers events := by
  rw [buffers, entries, List.filter_cons]
  cases logger.limit.admits event.level <;> rfl

/-- A logger delivers the line of a record that its limit admits, and else nothing. -/
theorem log_asRecord_snd (logger : Logger) (event : Event) (sink : Sink) :
    (logger.log event.asRecord sink).2 = sink.afterEach
      (if logger.limit.admits event.level then [encode (logger.line event.asRecord)] else []) := by
  have hlevel : event.asRecord.level = event.level := rfl
  rw [log, hlevel]
  cases logger.limit.admits event.level <;> rfl

/-- On a steady sink a record is logged, or its line is lost. -/
theorem log_done_or_failed (logger : Logger) (record : Record) {sink : Sink} (h : sink.IsSteady) :
    (logger.log record sink).1 = .done ∨
      ∃ failure, (logger.log record sink).1 = .failed failure := by
  rw [log]
  cases logger.limit.admits record.level with
  | false => exact Or.inl rfl
  | true => exact h.done_or_failed (encode (logger.line record))

theorem logEvents_cons {logger : Logger} {event : Event} {sink : Sink} (h : sink.IsSteady)
    (events : List Event) :
    logger.logEvents (event :: events) sink =
      logger.logEvents events (logger.log event.record sink).2 := by
  rw [logEvents]
  obtain hdone | ⟨failure, hfailed⟩ := logger.log_done_or_failed event.record h
  · rw [← Prod.eta (logger.log event.record sink), hdone]
  · rw [← Prod.eta (logger.log event.record sink), hfailed]

/-- Logging events delivers the lines of the log, whatever becomes of each of them. -/
theorem logEvents_eq (logger : Logger) (events : List Event) {sink : Sink}
    (h : sink.IsSteady) :
    logger.logEvents events sink = (.done, sink.afterEach (logger.buffers events)) := by
  induction events generalizing sink with
  | nil => rfl
  | cons event events ih =>
      rw [logEvents_cons h, Event.record_eq, log_asRecord_snd,
        ih (h.afterEach _), buffers_cons, Sink.afterEach_append]

/-- The lines at a stricter limit are those at a looser one that the stricter admits. -/
theorem entries_withLimit (logger : Logger) {limit looser : Limit} (h : limit.rank ≤ looser.rank)
    (events : List Event) :
    entries { logger with limit := limit } events =
      (entries { logger with limit := looser } events).filter fun entry =>
        limit.admits entry.1 := by
  have hboth (event : Event) :
      (limit.admits event.level && looser.admits event.level) = limit.admits event.level := by
    cases hadmits : limit.admits event.level with
    | false => rfl
    | true => exact Limit.admits_of_rank_le h hadmits
  rw [entries, entries, List.filter_map, List.filter_filter]
  simp only [Function.comp_def, hboth]
  rfl

end Logger

end Log

namespace Session

section

variable [Log.TimeLibrary] {s : Session} {logger : Log.Logger} {sink : Sink}

/-! ## Loggers and subscribers of a session -/

/-- A logger that is given the records of events delivers the lines of their log. -/
theorem get?_sinks_run_log {id : Handle} (hlogger : s.loggers.get? id = some logger)
    (hsink : s.sinks.get? logger.console.sink = some sink) (hsteady : sink.IsSteady)
    (events : List Log.Event) (other : SinkId) :
    (s.run (events.map fun event => .log id event.asRecord)).sinks.get? other =
      if other = logger.console.sink then some (sink.afterEach (logger.buffers events))
      else s.sinks.get? other := by
  induction events generalizing s sink with
  | nil =>
      by_cases hother : other = logger.console.sink
      · rw [if_pos hother, hother]
        exact hsink
      · rw [if_neg hother]
        rfl
  | cons event events ih =>
      let next := s.apply (.sink logger.console.sink (logger.log event.asRecord sink).2)
      have hstep : s.step (.log id event.asRecord) =
          ⟨next, .ofLogging (.enabled (logger.limit.admits event.level))
            (logger.log event.asRecord sink).1, []⟩ := by
        rw [step, effect, log, withObject_of_get? .logger hlogger, deliverTo_of_get? hsink]
        rfl
      have hends : (s.step (.log id event.asRecord)).answer.isEndless = false := by
        rw [hstep]
        dsimp only
        obtain hdone | ⟨failure, hfailed⟩ := logger.log_done_or_failed event.asRecord hsteady
        · rw [hdone]
          rfl
        · rw [hfailed]
          rfl
      have hafter : (logger.log event.asRecord sink).2.IsSteady := by
        rw [Log.Logger.log_asRecord_snd]
        exact hsteady.afterEach _
      have hnext : next.sinks.get? logger.console.sink = some (logger.log event.asRecord sink).2 :=
        (get?_apply_sink ..).trans (if_pos rfl)
      rw [List.map_cons, run_cons_of_ends _ hends, hstep]
      refine (ih (s := next) hlogger hnext hafter).trans ?_
      by_cases hother : other = logger.console.sink
      · rw [if_pos hother, if_pos hother, Log.Logger.log_asRecord_snd, Log.Logger.buffers_cons,
          Sink.afterEach_append]
      · rw [if_neg hother, if_neg hother]
        exact (get?_apply_sink ..).trans (if_neg hother)

/-- A subscriber logs events by one delivery for each event that its limit admits, in their order:
the line of a record with the last message and the other fields of the event, joined by blanks. How
a delivery ends changes nothing for the others, and nothing but the sink is changed. A logger with
the same settings that is given these records writes the same log. Of two limits the stricter gives
those lines of the other's log that it admits. -/
theorem emit_writes_log {id : Handle} (hsubscriber : s.subscribers.get? id = some logger)
    (hsink : s.sinks.get? logger.console.sink = some sink) (hsteady : sink.IsSteady)
    (events : List Log.Event) :
    let step := s.step (.emit id events)
    step.answer = .done ∧
    step.session = { s with sinks := step.session.sinks } ∧
    (∀ other, step.session.sinks.get? other =
      if other = logger.console.sink then
        some (sink.afterEach ((logger.entries events).map fun entry => encode entry.2))
      else s.sinks.get? other) ∧
    (∀ id', s.loggers.get? id' = some logger → ∀ other,
      (s.run (events.map fun event => .log id' event.asRecord)).sinks.get? other =
        step.session.sinks.get? other) ∧
    (∀ limit looser : Log.Limit, limit.rank ≤ looser.rank →
      Log.Logger.entries { logger with limit := limit } events =
        (Log.Logger.entries { logger with limit := looser } events).filter fun entry =>
          limit.admits entry.1) := by
  intro step
  have hstep : step =
      ⟨s.apply (.sink logger.console.sink (sink.afterEach (logger.buffers events))), .done, []⟩ := by
    show s.step (.emit id events) = _
    rw [Session.step, effect, emit, withObject_of_get? .subscriber hsubscriber,
      deliverTo_of_get? hsink, Log.Logger.logEvents_eq logger events hsteady]
    rfl
  have hsinks (other : SinkId) : step.session.sinks.get? other =
      if other = logger.console.sink then some (sink.afterEach (logger.buffers events))
      else s.sinks.get? other := by
    rw [hstep]
    exact get?_apply_sink ..
  refine ⟨?_, ?_, hsinks, ?_, fun _ _ h => logger.entries_withLimit h events⟩
  · rw [hstep]
  · rw [hstep]
    rfl
  · intro id' hlogger other
    rw [hsinks]
    exact get?_sinks_run_log hlogger hsink hsteady events other

end

section

open scoped Log.PlainTimes

/-- The first line is lost because the sink fails once, and the second event does not matter enough.
The third line is written as if nothing had been before it; its message is the last one. -/
theorem emit_writes_log_failingOnce :
    let script := Script.answeringAt 0 (.fail .other "full".toList)
    let s := (start .forced (.ofList [(.named "x", .scripted script .blank)])).run
      [.openConsole "c" ⟨some (.named "x"), none, none, none, some true⟩,
        .makeLogger "l" "c" ⟨some (.upTo .warn), some false, none, none, []⟩ true]
    let clock : Log.Clock := ⟨2026, 1, 2, 3, 4, 5, 0, 0⟩
    let message (text : List Char) : Log.Field := ⟨Log.Field.messageKey, .text text⟩
    let events : List Log.Event :=
      [⟨clock, .warn, none, none, [message "lost".toList]⟩,
        ⟨clock, .debug, none, none, [message "too much".toList]⟩,
        ⟨clock, .error, none, none,
          [⟨"a".toList, .integer 1⟩, message "first".toList, message "last".toList,
            ⟨"b".toList, .quoted "x".toList⟩]⟩]
    ∃ sink, (s.step (.emit "l" events)).session.sinks.get? (.named "x") = some sink ∧
      sink.taken = encode "ERROR last a=1 b=\"x\"\n".toList := by
  intro script s clock message events
  have hsteady : (Sink.scripted script .blank).IsSteady :=
    Script.isSteady_answeringAt WriteAnswer.noConfusion (fun _ => WriteAnswer.noConfusion)
  have hsubscriber : s.subscribers.get? "l" =
      some ⟨⟨.named "x", 2, 0, ⟨false, false⟩, .plain⟩, .upTo .warn, false, true, false,
        .described Log.TimeFormat.defaultDescription⟩ := by
    decide +kernel
  have hsink : s.sinks.get? (.named "x") = some (.scripted script .blank) := rfl
  obtain ⟨-, -, hsinks, -⟩ := emit_writes_log hsubscriber hsink hsteady events
  refine ⟨_, (hsinks (.named "x")).trans (if_pos rfl), ?_⟩
  decide +kernel

end

end Session

end TerminalDecoration
