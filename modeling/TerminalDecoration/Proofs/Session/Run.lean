/-
# Runs of a session

A run carries out its commands one after the other, up to the first that never comes to an end. What
every command preserves, a run preserves. What a session shares among its objects changes in few
ways: the cache by look-ups, the filters by what is asked of them, the limit of reports when a logger
is to be installed.
-/

import TerminalDecoration.Proofs.Session.Footprint

namespace TerminalDecoration.Session

/-! ## Objects that are there -/

section

variable {s : Session}

theorem withObject_of_get? (kind : Kind) {id : Handle} {object : kind.Object}
    (h : (s.table kind).get? id = some object) (act : kind.Object → Effect) :
    s.withObject kind id act = act object := by
  rw [withObject, h]

theorem withSink_of_get? {id : SinkId} {sink : Sink} (h : s.sinks.get? id = some sink)
    (act : Sink → Effect) : s.withSink id act = act sink := by
  rw [withSink, h]

theorem withFilter_of_find? {id : Handle} {cell : Filter.Cell}
    (h : s.filters.find? id = some cell) (act : Filter.Cell → Effect) :
    s.withFilter id act = act cell := by
  rw [withFilter, h]

/-- A delivery changes one sink. -/
theorem deliverTo_of_get? {id : SinkId} {sink : Sink} (h : s.sinks.get? id = some sink)
    (act : Sink → Delivery × Sink) (answer : Delivery → Answer) :
    s.deliverTo id act answer =
      { answer := answer (act sink).1, changes := [.sink id (act sink).2] } := by
  rw [deliverTo, withSink_of_get? h]

end

/-! ## Single changes -/

section

variable (s : Session) (kind : Kind) (t : Table Handle kind.Object)

@[simp]
theorem terminal_setTable : (s.setTable kind t).terminal = s.terminal := by cases kind <;> rfl

@[simp]
theorem sinks_setTable : (s.setTable kind t).sinks = s.sinks := by cases kind <;> rfl

@[simp]
theorem filters_setTable : (s.setTable kind t).filters = s.filters := by cases kind <;> rfl

@[simp]
theorem limit_setTable : (s.setTable kind t).limit = s.limit := by cases kind <;> rfl

end

theorem get?_apply_sink (s : Session) (id other : SinkId) (sink : Sink) :
    (s.apply (.sink id sink)).sinks.get? other =
      if other = id then some sink else s.sinks.get? other :=
  Table.get?_insert ..

/-- What no change concerns stays as it is. -/
theorem foldl_apply_eq {α : Type} {f : Session → α} {changes : List Change}
    (h : ∀ change ∈ changes, ∀ s : Session, f (s.apply change) = f s) (s : Session) :
    f (changes.foldl apply s) = f s := by
  induction changes generalizing s with
  | nil => rfl
  | cons change changes ih =>
      rw [List.forall_mem_cons] at h
      exact (ih h.2 _).trans (h.1 s)

variable [Log.TimeLibrary] {s : Session}

/-! ## Single commands -/

/-- A command does nothing to the cache but look names up. -/
theorem cache_step (s : Session) (command : Command) :
    ∃ names, (s.step command).session.cache = s.cache.afterLookups names :=
  (isAllowed_effect s command).cache

/-- A command does to the filters what it asks of them. -/
theorem filters_step (s : Session) (command : Command) :
    (s.step command).session.filters = s.filters.afterAll command.request?.toList := by
  cases hrequest : command.request? with
  | none =>
      show (List.foldl apply s (s.effect command).changes).filters = s.filters
      apply foldl_apply_eq (f := filters)
      intro change hchange s'
      have hmay := (isAllowed_effect s command).changes change hchange
      cases change with
      | limit | probed | sink => rfl
      | put | remove => exact filters_setTable _ _ _
      | filter request => cases hrequest.symm.trans hmay
  | some request =>
      obtain ⟨id, answer, heffect⟩ := effect_of_request? (s := s) hrequest
      rw [step, heffect]
      rfl

/-- What a command reports of filters is what they report of what it asks. -/
theorem reports_step_of_request? {command : Command} {request : Filter.Request}
    (h : command.request? = some request) :
    (s.step command).reports = s.filters.reports request := by
  obtain ⟨id, answer, heffect⟩ := effect_of_request? (s := s) h
  rw [step, heffect]
  rfl

/-- Only the installation of a logger sets the limit. -/
theorem limit_step {command : Command} (h : ∀ id, command ≠ .installLogger id) :
    (s.step command).session.limit = s.limit := by
  show (List.foldl apply s (s.effect command).changes).limit = s.limit
  apply foldl_apply_eq (f := limit)
  intro change hchange s'
  have hmay := (isAllowed_effect s command).changes change hchange
  cases change with
  | limit =>
      obtain ⟨id, -, rfl, -⟩ := hmay
      exact absurd rfl (h id)
  | probed | sink | filter => rfl
  | put | remove => exact limit_setTable _ _ _

/-! ## Runs -/

/-- The commands of a run that are carried out. -/
def carriedOut (s : Session) (commands : List Command) : List Command :=
  (s.trace commands).map Prod.snd

section

variable {command : Command} (commands : List Command)

theorem run_cons_of_ends (h : (s.step command).answer.isEndless = false) :
    s.run (command :: commands) = (s.step command).session.run commands := by
  rw [run]
  exact if_neg (by rw [h]; exact Bool.false_ne_true)

theorem run_cons_of_isEndless (h : (s.step command).answer.isEndless = true) :
    s.run (command :: commands) = (s.step command).session := by
  rw [run]
  exact if_pos h

theorem trace_cons_of_ends (h : (s.step command).answer.isEndless = false) :
    s.trace (command :: commands) = (s, command) :: (s.step command).session.trace commands := by
  rw [trace]
  exact congrArg _ (if_neg (by rw [h]; exact Bool.false_ne_true))

theorem trace_cons_of_isEndless (h : (s.step command).answer.isEndless = true) :
    s.trace (command :: commands) = [(s, command)] := by
  rw [trace]
  exact congrArg _ (if_pos h)

theorem carriedOut_cons_of_ends (h : (s.step command).answer.isEndless = false) :
    s.carriedOut (command :: commands) =
      command :: (s.step command).session.carriedOut commands := by
  rw [carriedOut, trace_cons_of_ends commands h]
  rfl

theorem carriedOut_cons_of_isEndless (h : (s.step command).answer.isEndless = true) :
    s.carriedOut (command :: commands) = [command] := by
  rw [carriedOut, trace_cons_of_isEndless commands h]
  rfl

end

/-- What is carried out is among the commands of the run. -/
theorem snd_mem_of_mem_trace {commands : List Command} {entry : Session × Command}
    (h : entry ∈ s.trace commands) : entry.2 ∈ commands := by
  induction commands generalizing s with
  | nil => cases h
  | cons command commands ih =>
      rw [trace, List.mem_cons] at h
      rcases h with rfl | hlater
      · exact List.mem_cons_self
      · split at hlater
        · cases hlater
        · exact List.mem_cons_of_mem _ (ih hlater)

/-- The session in which a command of a run is carried out is the one after those before it. -/
theorem run_of_trace_eq {commands : List Command} {before after : List (Session × Command)}
    {s' : Session} {command : Command}
    (h : s.trace commands = before ++ (s', command) :: after) :
    s' = s.run (before.map Prod.snd) ∧ s.carriedOut (before.map Prod.snd) = before.map Prod.snd := by
  induction before generalizing s commands with
  | nil =>
      cases commands with
      | nil => cases h
      | cons first commands =>
          cases h
          exact ⟨rfl, rfl⟩
  | cons entry before ih =>
      cases commands with
      | nil => cases h
      | cons first commands =>
          -- A command that never ends is the last, so the first of several ends.
          cases hends : (s.step first).answer.isEndless with
          | true =>
              rw [trace_cons_of_isEndless commands hends] at h
              simp at h
          | false =>
              rw [trace_cons_of_ends commands hends, List.cons_append, List.cons.injEq] at h
              obtain ⟨rfl, hrest⟩ := h
              obtain ⟨hrun, hout⟩ := ih hrest
              rw [List.map_cons, run_cons_of_ends _ hends, carriedOut_cons_of_ends _ hends]
              exact ⟨hrun, congrArg _ hout⟩

/-- What holds of a session and is preserved by every command holds after a run. -/
theorem run_induction {motive : Session → Prop}
    (hstep : ∀ s command, motive s → motive (s.step command).session) (h : motive s)
    (commands : List Command) : motive (s.run commands) := by
  induction commands generalizing s with
  | nil => exact h
  | cons command commands ih =>
      cases hends : (s.step command).answer.isEndless with
      | false =>
          rw [run_cons_of_ends commands hends]
          exact ih (hstep s command h)
      | true =>
          rw [run_cons_of_isEndless commands hends]
          exact hstep s command h

/-- The filters after a run are what becomes of them by all that was asked. -/
theorem filters_run (s : Session) (commands : List Command) :
    (s.run commands).filters =
      s.filters.afterAll ((s.carriedOut commands).filterMap Command.request?) := by
  induction commands generalizing s with
  | nil => rfl
  | cons command commands ih =>
      have hfirst (requests : List Filter.Request) :
          (s.step command).session.filters.afterAll requests =
            s.filters.afterAll (command.request?.toList ++ requests) := by
        rw [filters_step]
        exact List.foldl_append.symm
      cases hends : (s.step command).answer.isEndless with
      | false =>
          rw [run_cons_of_ends commands hends, carriedOut_cons_of_ends commands hends, ih, hfirst]
          cases hrequest : command.request? <;> simp [hrequest]
      | true =>
          rw [run_cons_of_isEndless commands hends, carriedOut_cons_of_isEndless commands hends]
          refine (hfirst []).trans ?_
          cases hrequest : command.request? <;> simp [hrequest]

end TerminalDecoration.Session
