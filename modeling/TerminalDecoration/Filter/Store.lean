/-
# Stores of filters

Every filter is a cell of its own, with the sink before which it stands and its mode. A registry
keeps the place of one cell for each sink that it was asked for. Whoever gets a filter gets the
place of its cell, and a copy is the same place again, so all who have it share the mode. Filters of
different registries are different cells, even before the same sink.
-/

import TerminalDecoration.Diagnostic
import TerminalDecoration.Table

namespace TerminalDecoration.Filter

/-- One filter. -/
structure Cell where
  sink : SinkId
  mode : Mode
  deriving DecidableEq, Repr

/-- The place of a cell. -/
abbrev CellId := Nat

/-- A registry: the places of its filters, by sink. -/
abbrev Registry := Table SinkId CellId

/-- All filters, with all that refers to them. -/
structure Store where
  /-- The cells, each at its place. -/
  cells : List Cell
  registries : Table Handle Registry
  /-- The filters that have names. -/
  handles : Table Handle CellId
  deriving Repr

/-- What can be asked of filters. -/
inductive Request where
  /-- Asks a registry for the filter of a sink, and gives it a name. -/
  | get (registry : Handle) (sink : SinkId) (id : Handle)
  /-- Copies a filter under a second name. -/
  | copy (filter id : Handle)
  /-- Sets the mode of a filter. -/
  | set (filter : Handle) (mode : Mode)
  deriving DecidableEq, Repr

namespace Store

/-- No filters. -/
def empty : Store := ⟨[], .empty, .empty⟩

variable (store : Store)

/-- The registry of this name, which is empty before it is first used. -/
def registry (id : Handle) : Registry := (store.registries.get? id).getD .empty

/-- The filter of this name. -/
def find? (id : Handle) : Option Cell := (store.handles.get? id).bind fun place => store.cells[place]?

/-- Gives a name to the filter at a place. -/
def name (id : Handle) (place : CellId) : Store :=
  { store with handles := store.handles.insert id place }

/-- Adds a filter to a registry, in a cell of its own. -/
def add (registry : Handle) (sink : SinkId) : Store :=
  { store with
    cells := store.cells ++ [⟨sink, .off⟩]
    registries := store.registries.insert registry
      ((store.registry registry).insert sink store.cells.length) }

/-- Does what is asked, with a report of each filter that is added and of each mode that changes. -/
def step : Request → Store × List Diagnostic
  | .get registry sink id =>
    match (store.registry registry).get? sink with
    | some place => (store.name id place, [])
    | none => ((store.add registry sink).name id store.cells.length, [.filterAdded sink])
  | .copy filter id =>
    match store.handles.get? filter with
    | none => (store, [])
    | some place => (store.name id place, [])
  | .set filter mode =>
    match store.handles.get? filter with
    | none => (store, [])
    | some place =>
      match store.cells[place]? with
      | none => (store, [])
      | some cell =>
        ({ store with cells := store.cells.set place { cell with mode := mode } },
          if cell.mode = mode then [] else [.modeChanged cell.sink cell.mode mode])

/-- The store after what is asked. -/
def after (request : Request) : Store := (store.step request).1

/-- The reports of what is asked. -/
def reports (request : Request) : List Diagnostic := (store.step request).2

end Store

end TerminalDecoration.Filter
