/-
# Histories of filters

A filter comes from a registry that was asked for it, and from the sink that it was asked for. Which
filters there are and in which modes depends on nothing but what was asked so far. A history keeps
just this, and knows nothing of cells. A store is recorded by a history if each origin in it has one
cell of its own, to which all names lead that stand for this origin, and which is in the mode that
was set last. Whatever is asked, the store goes on to be recorded, and reports what the history says.
-/

import TerminalDecoration.Filter.Store
import TerminalDecoration.Proofs.Table

namespace TerminalDecoration

/-- The report is about a filter. -/
def Diagnostic.isAboutFilter : Diagnostic → Bool
  | filterAdded _ => true
  | modeChanged .. => true
  | _ => false

theorem Diagnostic.level_of_isAboutFilter {report : Diagnostic}
    (h : report.isAboutFilter = true) : report.level = .debug := by
  cases report with
  | filterAdded | modeChanged => rfl
  | _ => cases h

namespace Filter

/-! ## Histories -/

/-- Where a filter comes from. -/
structure Origin where
  registry : Handle
  sink : SinkId
  deriving DecidableEq, Repr

/-- What was asked of filters so far. -/
structure History where
  /-- The origin of the filter that each name was given, the latest first. -/
  names : List (Handle × Origin)
  /-- The mode that the filter of each origin was set to, the latest first. -/
  settings : List (Origin × Mode)
  deriving DecidableEq, Repr

namespace History

/-- Nothing was asked. -/
def blank : History := ⟨[], []⟩

variable (history : History)

/-- Where the filter comes from to which this name was given last. -/
def origin? (id : Handle) : Option Origin := history.names.lookup id

/-- All origins of filters. -/
def requested : List Origin := history.names.map Prod.snd

/-- The sinks for which a registry was asked. -/
def sinks (registry : Handle) : List SinkId :=
  (history.requested.filter fun origin => origin.registry = registry).map Origin.sink

/-- The mode that a filter was set to last. -/
def mode (origin : Origin) : Mode := (history.settings.lookup origin).getD .off

/-- The filter that a request is about. A name that stands for no filter says nothing. -/
def target? : Request → Option Origin
  | .get registry sink _ => some ⟨registry, sink⟩
  | .copy filter _ | .set filter _ => history.origin? filter

/-- The history with one name more. -/
def name (id : Handle) (origin : Origin) : History :=
  { history with names := (id, origin) :: history.names }

/-- The history with one setting more. -/
def set (origin : Origin) (mode : Mode) : History :=
  { history with settings := (origin, mode) :: history.settings }

/-- The history with one request more. -/
def after : Request → History
  | .get registry sink id => history.name id ⟨registry, sink⟩
  | .copy filter id =>
    match history.origin? filter with
    | none => history
    | some origin => history.name id origin
  | .set filter mode =>
    match history.origin? filter with
    | none => history
    | some origin => history.set origin mode

/-- What a request causes to be reported: the addition of a filter by the first request for it, and
a setting that changes its mode. -/
def reports : Request → List Diagnostic
  | .get registry sink _ =>
    if ⟨registry, sink⟩ ∈ history.requested then [] else [.filterAdded sink]
  | .copy .. => []
  | .set filter mode =>
    match history.origin? filter with
    | none => []
    | some origin =>
      if history.mode origin = mode then []
      else [.modeChanged origin.sink (history.mode origin) mode]

/-- The history with these requests more. -/
def afterAll (requests : List Request) : History := requests.foldl after history

/-- The history of these requests. -/
def ofRequests (requests : List Request) : History := blank.afterAll requests

variable {history}

theorem mem_requested_of_origin? {id : Handle} {origin : Origin}
    (h : history.origin? id = some origin) : origin ∈ history.requested := by
  obtain ⟨before, after, hnames, -⟩ := List.lookup_eq_some_iff.1 h
  rw [requested, hnames]
  simp

theorem mem_sinks_iff {registry : Handle} {sink : SinkId} :
    sink ∈ history.sinks registry ↔ ⟨registry, sink⟩ ∈ history.requested := by
  rw [sinks, List.mem_map]
  constructor
  · rintro ⟨origin, hmem, rfl⟩
    obtain ⟨hrequested, hregistry⟩ := List.mem_filter.1 hmem
    rw [← of_decide_eq_true hregistry]
    exact hrequested
  · intro hmem
    exact ⟨_, List.mem_filter.2 ⟨hmem, decide_eq_true rfl⟩, rfl⟩

theorem origin?_name (id : Handle) (origin : Origin) (other : Handle) :
    (history.name id origin).origin? other =
      if other = id then some origin else history.origin? other := by
  rw [origin?, name, List.lookup_cons]
  by_cases hother : other = id
  · rw [if_pos hother, hother, beq_self_eq_true]
  · rw [if_neg hother, beq_false_of_ne hother]
    rfl

theorem mode_set (origin : Origin) (new : Mode) (other : Origin) :
    (history.set origin new).mode other = if other = origin then new else history.mode other := by
  rw [mode, set, List.lookup_cons]
  by_cases hother : other = origin
  · rw [if_pos hother, hother, beq_self_eq_true]
    rfl
  · rw [if_neg hother, beq_false_of_ne hother]
    rfl

/-! ### Single requests -/

section

variable {filter : Handle} {origin : Origin} (h : history.origin? filter = some origin)

include h

theorem after_copy (id : Handle) : history.after (.copy filter id) = history.name id origin := by
  rw [after, h]

theorem after_set (mode : Mode) : history.after (.set filter mode) = history.set origin mode := by
  rw [after, h]

end

/-- Only a setting of a filter changes its mode. -/
theorem mode_after_of_not_set {request : Request} {origin : Origin}
    (h : ∀ filter mode, request = .set filter mode → history.origin? filter ≠ some origin) :
    (history.after request).mode origin = history.mode origin := by
  cases request with
  | get registry sink id => rfl
  | copy filter id =>
      cases horigin : history.origin? filter with
      | none => rw [after, horigin]
      | some other => rw [after_copy horigin]; rfl
  | set filter mode =>
      cases horigin : history.origin? filter with
      | none => rw [after, horigin]
      | some other =>
          have hne : origin ≠ other :=
            fun heq => h filter mode rfl (horigin.trans (congrArg some heq.symm))
          rw [after_set horigin, mode_set, if_neg hne]

theorem isAboutFilter_of_mem_reports {request : Request} {report : Diagnostic}
    (h : report ∈ history.reports request) : report.isAboutFilter = true := by
  cases request with
  | get registry sink id =>
      rw [reports, List.mem_ite_nil_left, List.mem_singleton] at h
      rw [h.2]
      rfl
  | copy filter id => exact absurd h List.not_mem_nil
  | set filter mode =>
      rw [reports] at h
      cases hfilter : history.origin? filter with
      | none =>
          rw [hfilter] at h
          exact absurd h List.not_mem_nil
      | some origin =>
          rw [hfilter, List.mem_ite_nil_left, List.mem_singleton] at h
          rw [h.2]
          rfl

end History

/-! ## Stores that are recorded by a history -/

namespace Store

/-- The place of the filter of this origin. -/
def place? (store : Store) (origin : Origin) : Option CellId :=
  (store.registry origin.registry).get? origin.sink

/-- The store after all that is asked. -/
def afterAll (store : Store) (requests : List Request) : Store := requests.foldl after store

theorem place?_add (store : Store) (registry : Handle) (sink : SinkId) (origin : Origin) :
    (store.add registry sink).place? origin =
      if origin = ⟨registry, sink⟩ then some store.cells.length else store.place? origin := by
  obtain ⟨registry', sink'⟩ := origin
  simp only [place?, add, Store.registry, Table.get?_insert, Origin.mk.injEq]
  by_cases hregistry : registry' = registry
  · subst hregistry
    rw [if_pos rfl, Option.getD_some, Table.get?_insert]
    simp
  · rw [if_neg hregistry, if_neg (hregistry ·.1)]

theorem keys_registry_add {store : Store} (h : ∀ id, (store.registry id).keys.Nodup)
    (registry : Handle) (sink : SinkId) (id : Handle) :
    ((store.add registry sink).registry id).keys.Nodup := by
  rw [add, Store.registry, Table.get?_insert]
  split
  · exact Table.nodup_keys_insert (h registry) _ _
  · exact h id

/-- The filters of the store are those of the history. -/
structure IsRecordedBy (store : Store) (history : History) : Prop where
  /-- A name stands for the filter of its origin. -/
  handle_eq : ∀ id, store.handles.get? id = (history.origin? id).bind store.place?
  isSome_place?_iff : ∀ origin, (store.place? origin).isSome ↔ origin ∈ history.requested
  /-- Filters of different origins have different cells. -/
  place?_injective : ∀ {origin origin' place}, store.place? origin = some place →
    store.place? origin' = some place → origin = origin'
  cell_eq : ∀ {origin place}, store.place? origin = some place →
    store.cells[place]? = some ⟨origin.sink, history.mode origin⟩
  nodup_keys : ∀ id, (store.registry id).keys.Nodup
  mode_of_not_requested : ∀ {origin}, origin ∉ history.requested → history.mode origin = .off

theorem isRecordedBy_empty : empty.IsRecordedBy .blank where
  handle_eq _ := rfl
  isSome_place?_iff _ := by simp [place?, registry, empty, History.requested, History.blank]
  place?_injective h := by cases h
  cell_eq h := by cases h
  nodup_keys _ := List.nodup_nil
  mode_of_not_requested _ := rfl

namespace IsRecordedBy

variable {store : Store} {history : History} (h : store.IsRecordedBy history)

include h

theorem exists_place {origin : Origin} (hmem : origin ∈ history.requested) :
    ∃ place, store.place? origin = some place :=
  Option.isSome_iff_exists.1 ((h.isSome_place?_iff origin).2 hmem)

theorem place?_eq_none {origin : Origin} (hmem : origin ∉ history.requested) :
    store.place? origin = none := by
  rw [← Option.not_isSome_iff_eq_none, h.isSome_place?_iff]
  exact hmem

/-- A name with an origin stands for the place of this origin. -/
theorem exists_place_of_origin? {id : Handle} {origin : Origin}
    (hid : history.origin? id = some origin) :
    ∃ place, store.place? origin = some place ∧ store.handles.get? id = some place := by
  obtain ⟨place, hplace⟩ := h.exists_place (History.mem_requested_of_origin? hid)
  refine ⟨place, hplace, ?_⟩
  rw [h.handle_eq, hid]
  exact hplace

theorem handle_eq_none {id : Handle} (hid : history.origin? id = none) :
    store.handles.get? id = none := by
  rw [h.handle_eq, hid]
  rfl

/-- The filter of a name, as the history knows it. -/
theorem find?_eq (id : Handle) :
    store.find? id = (history.origin? id).map fun origin => ⟨origin.sink, history.mode origin⟩ := by
  rw [find?]
  cases hid : history.origin? id with
  | none => rw [h.handle_eq_none hid]; rfl
  | some origin =>
      obtain ⟨place, hplace, hhandle⟩ := h.exists_place_of_origin? hid
      rw [hhandle]
      exact h.cell_eq hplace

theorem lt_length {origin : Origin} {place : CellId} (hplace : store.place? origin = some place) :
    place < store.cells.length := by
  obtain ⟨hlt, -⟩ := List.getElem?_eq_some_iff.1 (h.cell_eq hplace)
  exact hlt

/-! ### Single requests -/

/-- Giving a name to the filter of an origin. -/
theorem name {origin : Origin} {place : CellId} (hplace : store.place? origin = some place)
    (id : Handle) :
    (store.name id place).IsRecordedBy (history.name id origin) where
  handle_eq other := by
    rw [History.origin?_name]
    refine (Table.get?_insert _ _ _ _).trans ?_
    split
    · exact hplace.symm
    · exact h.handle_eq other
  isSome_place?_iff other := by
    have hmem : origin ∈ history.requested := by
      rw [← h.isSome_place?_iff, hplace]
      rfl
    refine (h.isSome_place?_iff other).trans ⟨List.mem_cons_of_mem _, fun hother => ?_⟩
    rcases List.mem_cons.1 hother with rfl | hother
    · exact hmem
    · exact hother
  place?_injective := h.place?_injective
  cell_eq := h.cell_eq
  nodup_keys := h.nodup_keys
  mode_of_not_requested hother := h.mode_of_not_requested (hother <| List.mem_cons_of_mem _ ·)

/-- Adding a filter to a registry, and giving a name to it. -/
theorem add {registry : Handle} {sink : SinkId} (hnew : ⟨registry, sink⟩ ∉ history.requested)
    (id : Handle) :
    ((store.add registry sink).name id store.cells.length).IsRecordedBy
      (history.name id ⟨registry, sink⟩) := by
  have hplace := store.place?_add registry sink
  -- All places of other filters are before the new one.
  have hold {origin : Origin} {place : CellId}
      (hat : (store.add registry sink).place? origin = some place) :
      origin = ⟨registry, sink⟩ ∧ place = store.cells.length ∨
        store.place? origin = some place ∧ place < store.cells.length := by
    rw [hplace] at hat
    split at hat
    · rename_i horigin
      cases hat
      exact .inl ⟨horigin, rfl⟩
    · exact .inr ⟨hat, h.lt_length hat⟩
  refine ⟨?handles, ?places, ?injective, ?cells, ?keys, ?modes⟩
  case handles =>
    intro other
    rw [History.origin?_name]
    refine (Table.get?_insert _ _ _ _).trans ?_
    split
    · exact ((hplace _).trans (if_pos rfl)).symm
    · refine (h.handle_eq other).trans ?_
      cases hother : history.origin? other with
      | none => rfl
      | some origin =>
          have hne : origin ≠ ⟨registry, sink⟩ :=
            fun heq => hnew (heq ▸ History.mem_requested_of_origin? hother)
          exact ((hplace _).trans (if_neg hne)).symm
  case places =>
    intro origin
    have hmem : origin ∈ (history.name id ⟨registry, sink⟩).requested ↔
        origin = ⟨registry, sink⟩ ∨ origin ∈ history.requested := List.mem_cons
    rw [hmem, ← h.isSome_place?_iff]
    show ((store.add registry sink).place? origin).isSome ↔ _
    rw [hplace]
    split
    · rename_i horigin
      exact iff_of_true rfl (.inl horigin)
    · rename_i horigin
      exact (or_iff_right horigin).symm
  case injective =>
    intro origin origin' place hat hat'
    rcases hold hat, hold hat' with ⟨⟨rfl, rfl⟩ | ⟨hat, hlt⟩, ⟨rfl, hplace⟩ | ⟨hat', hlt'⟩⟩
    · rfl
    · exact absurd hlt' (Nat.lt_irrefl _)
    · exact absurd hplace (Nat.ne_of_lt hlt)
    · exact h.place?_injective hat hat'
  case cells =>
    intro origin place hat
    rcases hold hat with ⟨rfl, rfl⟩ | ⟨hat, hlt⟩
    · have hmode : history.mode ⟨registry, sink⟩ = .off := h.mode_of_not_requested hnew
      show (store.cells ++ [⟨sink, .off⟩])[store.cells.length]? =
        some ⟨sink, history.mode ⟨registry, sink⟩⟩
      rw [hmode, List.getElem?_concat_length]
    · exact (List.getElem?_append_left hlt).trans (h.cell_eq hat)
  case keys => exact keys_registry_add h.nodup_keys registry sink
  case modes =>
    intro origin hother
    exact h.mode_of_not_requested (hother <| List.mem_cons_of_mem _ ·)

/-- Setting the cell of an origin to another mode. -/
theorem set {origin : Origin} {place : CellId} (hplace : store.place? origin = some place)
    (mode : Mode) :
    { store with cells := store.cells.set place ⟨origin.sink, mode⟩ }.IsRecordedBy
      (history.set origin mode) where
  handle_eq := h.handle_eq
  isSome_place?_iff := h.isSome_place?_iff
  place?_injective := h.place?_injective
  cell_eq := by
    intro other place' hother
    rw [History.mode_set]
    by_cases horigin : other = origin
    · have hsame : place' = place := by
        rw [horigin] at hother
        exact Option.some.inj (hother.symm.trans hplace)
      rw [if_pos horigin, horigin, hsame]
      exact List.getElem?_set_self (h.lt_length hplace)
    · have hne : place ≠ place' := by
        rintro rfl
        exact horigin (h.place?_injective hother hplace)
      rw [if_neg horigin]
      exact (List.getElem?_set_ne hne).trans (h.cell_eq hother)
  nodup_keys := h.nodup_keys
  mode_of_not_requested := by
    intro other hother
    have hne : other ≠ origin := by
      rintro rfl
      exact hother ((h.isSome_place?_iff other).1 (Option.isSome_of_eq_some hplace))
    rw [History.mode_set, if_neg hne]
    exact h.mode_of_not_requested hother

/-- Whatever is asked, the store does what the history says, and reports it. -/
theorem step (request : Request) :
    (store.after request).IsRecordedBy (history.after request) ∧
      store.reports request = history.reports request := by
  rw [Store.after, Store.reports]
  cases request with
  | get registry sink id =>
      rw [Store.step, History.reports]
      by_cases hmem : ⟨registry, sink⟩ ∈ history.requested
      · obtain ⟨place, hplace⟩ := h.exists_place hmem
        rw [if_pos hmem, show (store.registry registry).get? sink = some place from hplace]
        exact ⟨h.name hplace id, rfl⟩
      · rw [if_neg hmem,
          show (store.registry registry).get? sink = none from h.place?_eq_none hmem]
        exact ⟨h.add hmem id, rfl⟩
  | copy filter id =>
      rw [Store.step]
      cases hfilter : history.origin? filter with
      | none =>
          rw [History.after, hfilter, h.handle_eq_none hfilter]
          exact ⟨h, rfl⟩
      | some origin =>
          obtain ⟨place, hplace, hhandle⟩ := h.exists_place_of_origin? hfilter
          rw [History.after_copy hfilter, hhandle]
          exact ⟨h.name hplace id, rfl⟩
  | set filter mode =>
      rw [Store.step]
      cases hfilter : history.origin? filter with
      | none =>
          rw [History.after, History.reports, hfilter, h.handle_eq_none hfilter]
          exact ⟨h, rfl⟩
      | some origin =>
          obtain ⟨place, hplace, hhandle⟩ := h.exists_place_of_origin? hfilter
          rw [History.after_set hfilter, History.reports, hfilter, hhandle]
          dsimp only
          rw [h.cell_eq hplace]
          exact ⟨h.set hplace mode, rfl⟩

/-- Whatever is asked in the course of time, the store goes on to be recorded. -/
theorem afterAll (requests : List Request) :
    (store.afterAll requests).IsRecordedBy (history.afterAll requests) := by
  induction requests generalizing store history with
  | nil => exact h
  | cons request requests ih => exact ih (h.step request).1

/-! ### What a registry has -/

theorem size_registry (id : Handle) :
    (store.registry id).size = (history.sinks id).dedup.length ∧
      (store.registry id).isEmpty = (history.sinks id).isEmpty := by
  have hkeys : ∀ sink, ((store.registry id).get? sink).isSome ↔ sink ∈ history.sinks id :=
    fun sink => (h.isSome_place?_iff ⟨id, sink⟩).trans History.mem_sinks_iff.symm
  exact ⟨Table.size_eq_length_dedup hkeys (h.nodup_keys id), Table.isEmpty_eq hkeys⟩

/-- Two names stand for one cell exactly if their filters come from the same registry for the same
sink. -/
theorem handles_eq_iff {id id' : Handle} {origin origin' : Origin}
    (hid : history.origin? id = some origin) (hid' : history.origin? id' = some origin') :
    ∃ place place', store.handles.get? id = some place ∧ store.handles.get? id' = some place' ∧
      (place = place' ↔ origin = origin') := by
  obtain ⟨place, hplace, hhandle⟩ := h.exists_place_of_origin? hid
  obtain ⟨place', hplace', hhandle'⟩ := h.exists_place_of_origin? hid'
  refine ⟨place, place', hhandle, hhandle', ?_, ?_⟩
  · rintro rfl
    exact h.place?_injective hplace hplace'
  · rintro rfl
    exact Option.some.inj (hplace.symm.trans hplace')

end IsRecordedBy

end Store

end Filter

end TerminalDecoration
