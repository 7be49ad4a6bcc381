/-
# What a store has for a sink

One store covers another for a sink if the names that the other has for filters of this sink stand
for filters of the same origins in both, in the same modes. Their cells may be at other places. That
stays so when the same is asked of both, and also when only the other is asked, as long as it is
asked about other sinks.
-/

import TerminalDecoration.Proofs.Filter.History

namespace TerminalDecoration.Filter

/-! ## Histories -/

namespace History

/-- What the first history has for the sink the second has, too. -/
structure IsCoveredBy (history : History) (a : SinkId) (history' : History) : Prop where
  origin?_eq : ∀ {id origin}, history.origin? id = some origin → origin.sink = a →
    history'.origin? id = some origin
  mode_eq : ∀ {origin}, origin.sink = a → history'.mode origin = history.mode origin

namespace IsCoveredBy

theorem refl (history : History) (a : SinkId) : history.IsCoveredBy a history :=
  ⟨fun h _ => h, fun _ => rfl⟩

variable {history history' : History} {a : SinkId} (h : history.IsCoveredBy a history')

include h

theorem name (id : Handle) (origin : Origin) :
    (history.name id origin).IsCoveredBy a (history'.name id origin) where
  origin?_eq := by
    intro id' origin' hid hsink
    rw [origin?_name] at hid ⊢
    split at hid
    · rename_i hsame
      rw [if_pos hsame]
      exact hid
    · rename_i hother
      rw [if_neg hother]
      exact h.origin?_eq hid hsink
  mode_eq := h.mode_eq

theorem name_left (id : Handle) {origin : Origin} (hother : origin.sink ≠ a) :
    (history.name id origin).IsCoveredBy a history' where
  origin?_eq := by
    intro id' origin' hid hsink
    rw [origin?_name] at hid
    split at hid
    · cases hid
      exact absurd hsink hother
    · exact h.origin?_eq hid hsink
  mode_eq := h.mode_eq

theorem set (origin : Origin) (mode : Mode) :
    (history.set origin mode).IsCoveredBy a (history'.set origin mode) where
  origin?_eq := h.origin?_eq
  mode_eq hsink := by rw [mode_set, mode_set, h.mode_eq hsink]

theorem set_left {origin : Origin} (hother : origin.sink ≠ a) (mode : Mode) :
    (history.set origin mode).IsCoveredBy a history' where
  origin?_eq := h.origin?_eq
  mode_eq := by
    intro origin' hsink
    have hne : origin' ≠ origin := by
      rintro rfl
      exact hother hsink
    rw [mode_set, if_neg hne, h.mode_eq hsink]

/-- A request for a filter of the sink is the same in both histories. -/
theorem after {request : Request} {origin : Origin}
    (htarget : history.target? request = some origin) (hsink : origin.sink = a) :
    (history.after request).IsCoveredBy a (history'.after request) := by
  cases request with
  | get registry sink id => exact h.name id _
  | copy filter id =>
      rw [after_copy htarget, after_copy (h.origin?_eq htarget hsink)]
      exact h.name id origin
  | set filter mode =>
      rw [after_set htarget, after_set (h.origin?_eq htarget hsink)]
      exact h.set origin mode

theorem after_left {request : Request}
    (hother : ∀ origin, history.target? request = some origin → origin.sink ≠ a) :
    (history.after request).IsCoveredBy a history' := by
  cases request with
  | get registry sink id => exact h.name_left id (hother _ rfl)
  | copy filter id =>
      rw [History.after]
      cases hfilter : history.origin? filter with
      | none => exact h
      | some origin => exact h.name_left id (hother origin hfilter)
  | set filter mode =>
      rw [History.after]
      cases hfilter : history.origin? filter with
      | none => exact h
      | some origin => exact h.set_left (hother origin hfilter) mode

end IsCoveredBy

end History

/-! ## Stores -/

namespace Store

/-- The sink of the filter that a request is about. -/
def target? (store : Store) : Request → Option SinkId
  | .get _ sink _ => some sink
  | .copy filter _ | .set filter _ => (store.find? filter).map Cell.sink

theorem IsRecordedBy.target?_eq {store : Store} {history : History}
    (h : store.IsRecordedBy history) (request : Request) :
    store.target? request = (history.target? request).map Origin.sink := by
  cases request with
  | get registry sink id => rfl
  | copy filter | set filter =>
      rw [Store.target?, h.find?_eq, Option.map_map]
      rfl

/-- What the first store has for the sink the second has, too. -/
def IsCoveredBy (store : Store) (a : SinkId) (store' : Store) : Prop :=
  ∃ history history', store.IsRecordedBy history ∧ store'.IsRecordedBy history' ∧
    history.IsCoveredBy a history'

namespace IsCoveredBy

variable {store store' : Store} {a : SinkId} (h : store.IsCoveredBy a store')

include h

theorem find?_eq {id : Handle} {cell : Cell} (hid : store.find? id = some cell)
    (hsink : cell.sink = a) : store'.find? id = some cell := by
  obtain ⟨history, history', hstore, hstore', hcovered⟩ := h
  rw [hstore.find?_eq, Option.map_eq_some_iff] at hid
  obtain ⟨origin, horigin, rfl⟩ := hid
  rw [hstore'.find?_eq, hcovered.origin?_eq horigin hsink, Option.map_some,
    hcovered.mode_eq hsink]

theorem after {request : Request} (htarget : store.target? request = some a) :
    (store.after request).IsCoveredBy a (store'.after request) := by
  obtain ⟨history, history', hstore, hstore', hcovered⟩ := h
  rw [hstore.target?_eq, Option.map_eq_some_iff] at htarget
  obtain ⟨origin, horigin, hsink⟩ := htarget
  exact ⟨_, _, (hstore.step request).1, (hstore'.step request).1, hcovered.after horigin hsink⟩

theorem after_left {request : Request} (hother : store.target? request ≠ some a) :
    (store.after request).IsCoveredBy a store' := by
  obtain ⟨history, history', hstore, hstore', hcovered⟩ := h
  rw [hstore.target?_eq] at hother
  refine ⟨_, _, (hstore.step request).1, hstore', hcovered.after_left ?_⟩
  intro origin horigin hsink
  rw [horigin, Option.map_some, hsink] at hother
  exact hother rfl

end IsCoveredBy

end Store

end TerminalDecoration.Filter
