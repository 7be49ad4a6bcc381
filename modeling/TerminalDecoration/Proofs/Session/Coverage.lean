/-
# What a session has for a sink

Every object of a session is bound to one sink. One session covers another for a sink if it has all
that the other has for this sink: the sink itself, the objects that are bound to it and its filters
in their modes. It may have more. A session goes on to cover another when both are changed in the
same way, and also when only the other is, as long as the change is about other sinks.
-/

import TerminalDecoration.Proofs.Filter.Coverage
import TerminalDecoration.Proofs.Session.Run

namespace TerminalDecoration.Session

/-- What the first session has for the sink the second has, too. -/
structure IsCoveredBy (s : Session) (a : SinkId) (s' : Session) : Prop where
  terminal_eq : s'.terminal = s.terminal
  sink_eq : s'.sinks.get? a = s.sinks.get? a
  filters : s.filters.IsCoveredBy a s'.filters
  objects : ∀ kind, (s.table kind).IsKeptIn (fun object => kind.sink object = a) (s'.table kind)

/-- The change gives nothing to the sink. -/
def Change.Spares (a : SinkId) : Change → Prop
  | .sink id _ => id ≠ a
  | .put kind _ object => kind.sink object ≠ a
  | _ => True

/-- The change asks nothing of filters. -/
def Change.IsNoRequest : Change → Prop
  | .filter _ => False
  | _ => True

namespace IsCoveredBy

theorem refl {s : Session} {history : Filter.History} (h : s.filters.IsRecordedBy history)
    (a : SinkId) : s.IsCoveredBy a s :=
  ⟨rfl, rfl, ⟨history, history, h, h, .refl history a⟩, fun _ => .refl _ _⟩

variable {s s' : Session} {a : SinkId} (h : s.IsCoveredBy a s')

include h

/-- The cache belongs to no sink. -/
theorem withCache (cache cache' : Style.Cache) :
    { s with cache := cache }.IsCoveredBy a { s' with cache := cache' } where
  terminal_eq := h.terminal_eq
  sink_eq := h.sink_eq
  filters := h.filters
  objects kind := by cases kind <;> exact h.objects _

/-! ## Single changes -/

theorem setTable {kind : Kind} {t t' : Table Handle kind.Object}
    (ht : t.IsKeptIn (fun object => kind.sink object = a) t') :
    (s.setTable kind t).IsCoveredBy a (s'.setTable kind t') where
  terminal_eq := by rw [terminal_setTable, terminal_setTable, h.terminal_eq]
  sink_eq := by rw [sinks_setTable, sinks_setTable, h.sink_eq]
  filters := by
    rw [filters_setTable, filters_setTable]
    exact h.filters
  objects other := by cases kind <;> cases other <;> first | exact ht | exact h.objects _

theorem setTable_left {kind : Kind} {t : Table Handle kind.Object}
    (ht : t.IsKeptIn (fun object => kind.sink object = a) (s'.table kind)) :
    (s.setTable kind t).IsCoveredBy a s' where
  terminal_eq := by rw [terminal_setTable, h.terminal_eq]
  sink_eq := by rw [sinks_setTable, h.sink_eq]
  filters := by
    rw [filters_setTable]
    exact h.filters
  objects other := by cases kind <;> cases other <;> first | exact ht | exact h.objects _

/-- The same change on both sides. -/
theorem apply {change : Change} (hchange : change.IsNoRequest) :
    (s.apply change).IsCoveredBy a (s'.apply change) := by
  cases change with
  | limit => exact ⟨h.terminal_eq, h.sink_eq, h.filters, h.objects⟩
  | probed => exact ⟨h.terminal_eq, h.sink_eq, h.filters, h.objects⟩
  | sink id sink =>
      refine ⟨h.terminal_eq, ?_, h.filters, h.objects⟩
      show (s'.sinks.insert id sink).get? a = (s.sinks.insert id sink).get? a
      rw [Table.get?_insert, Table.get?_insert, h.sink_eq]
  | put kind id object => exact h.setTable ((h.objects kind).insert id object)
  | remove kind id => exact h.setTable ((h.objects kind).erase id)
  | filter => exact hchange.elim

/-- A change on one side. -/
theorem apply_left {change : Change} (hspares : change.Spares a) (hchange : change.IsNoRequest) :
    (s.apply change).IsCoveredBy a s' := by
  cases change with
  | limit => exact ⟨h.terminal_eq, h.sink_eq, h.filters, h.objects⟩
  | probed => exact ⟨h.terminal_eq, h.sink_eq, h.filters, h.objects⟩
  | sink id sink =>
      refine ⟨h.terminal_eq, ?_, h.filters, h.objects⟩
      show s'.sinks.get? a = (s.sinks.insert id sink).get? a
      rw [Table.get?_insert, if_neg (Ne.symm hspares), h.sink_eq]
  | put kind id object => exact h.setTable_left ((h.objects kind).insert_left id hspares)
  | remove kind id => exact h.setTable_left ((h.objects kind).erase_left id)
  | filter => exact hchange.elim

theorem foldl_apply {changes : List Change} (hchanges : ∀ change ∈ changes, change.IsNoRequest) :
    (changes.foldl Session.apply s).IsCoveredBy a (changes.foldl Session.apply s') := by
  induction changes generalizing s s' with
  | nil => exact h
  | cons change changes ih =>
      rw [List.forall_mem_cons] at hchanges
      exact ih (h.apply hchanges.1) hchanges.2

theorem foldl_apply_left {changes : List Change}
    (hspares : ∀ change ∈ changes, change.Spares a)
    (hchanges : ∀ change ∈ changes, change.IsNoRequest) :
    (changes.foldl Session.apply s).IsCoveredBy a s' := by
  induction changes generalizing s with
  | nil => exact h
  | cons change changes ih =>
      rw [List.forall_mem_cons] at hspares hchanges
      exact ih (h.apply_left hspares.1 hchanges.1) hspares.2 hchanges.2

end IsCoveredBy

/-! ## Single commands -/

section

variable [Log.TimeLibrary] {s s' : Session} {command : Command}

omit [Log.TimeLibrary] in
theorem target_of_request? {request : Filter.Request} (h : command.request? = some request) :
    s.target command = s.filters.target? request := by
  cases command with
  | requestFilter | cloneFilter =>
      cases h
      rfl
  | setMode id mode =>
      cases mode with
      | none => cases h
      | some mode =>
          cases h
          rfl
  | _ => cases h

theorem session_step_of_request? {request : Filter.Request}
    (h : command.request? = some request) :
    (s.step command).session = { s with filters := s.filters.after request } := by
  obtain ⟨id, answer, heffect⟩ := effect_of_request? (s := s) h
  rw [step, heffect]
  rfl

theorem isNoRequest_of_request?_eq_none (h : command.request? = none) :
    ∀ change ∈ (s.effect command).changes, change.IsNoRequest := by
  intro change hchange
  have hmay := (isAllowed_effect s command).changes change hchange
  cases change with
  | filter request => cases h.symm.trans hmay
  | _ => trivial

/-- A command about nothing changes nothing but the cache. -/
theorem changes_eq_nil (h : command.subject = .nothing) : (s.effect command).changes = [] := by
  rw [List.eq_nil_iff_forall_not_mem]
  intro change hchange
  have hmay := (isAllowed_effect s command).changes change hchange
  have htarget : s.target command = none := by rw [target, h]
  cases change with
  | limit =>
      obtain ⟨id, -, rfl, -⟩ := hmay
      cases h
  | probed =>
      obtain ⟨id, options, rfl⟩ := hmay
      cases h
  | sink | put => cases htarget.symm.trans hmay
  | remove => cases h.symm.trans hmay
  | filter request =>
      cases command with
      | requestFilter | cloneFilter | setMode => cases h
      | _ => cases hmay

namespace IsCoveredBy

variable {a : SinkId} (h : s.IsCoveredBy a s')

include h

/-- A command about the sink that makes the same changes in both sessions. -/
theorem step (htarget : s.target command = some a)
    (hsame : (s'.effect command).changes = (s.effect command).changes) :
    (s.step command).session.IsCoveredBy a (s'.step command).session := by
  cases hrequest : command.request? with
  | none =>
      rw [Session.step, Session.step, hsame]
      exact (h.foldl_apply (isNoRequest_of_request?_eq_none hrequest)).withCache _ _
  | some request =>
      rw [session_step_of_request? hrequest, session_step_of_request? hrequest]
      rw [target_of_request? hrequest] at htarget
      exact { h with filters := h.filters.after htarget, objects := h.objects }

/-- A command about another sink takes nothing away from what another session covers. -/
theorem step_left (hother : s.target command ≠ some a) :
    (s.step command).session.IsCoveredBy a s' := by
  cases hrequest : command.request? with
  | none =>
      refine (h.foldl_apply_left ?_ (isNoRequest_of_request?_eq_none hrequest)).withCache _ s'.cache
      intro change hchange
      have hmay := (isAllowed_effect s command).changes change hchange
      cases change with
      | sink id sink =>
          rintro rfl
          exact hother hmay
      | put kind id object =>
          intro hsink
          exact hother (hmay.trans (congrArg some hsink))
      | _ => trivial
  | some request =>
      rw [session_step_of_request? hrequest]
      rw [target_of_request? hrequest] at hother
      exact { h with filters := h.filters.after_left hother, objects := h.objects }

/-- A command about nothing, on both sides. -/
theorem step_of_nothing (hsubject : command.subject = .nothing) :
    (s.step command).session.IsCoveredBy a (s'.step command).session := by
  rw [Session.step, Session.step, changes_eq_nil hsubject, changes_eq_nil hsubject]
  exact h.withCache _ _

end IsCoveredBy

end

end TerminalDecoration.Session
