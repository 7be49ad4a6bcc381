/-
# Objects of a session

Besides filters, a session keeps consoles, stencils, loggers and subscribers under names. Each of
them is bound to one sink.
-/

import TerminalDecoration.Log.Logger
import TerminalDecoration.Table

namespace TerminalDecoration

/-- A stencil with the sink that its lines go to. -/
structure BoundStencil where
  sink : SinkId
  stencil : Line.Stencil
  deriving DecidableEq, Repr

namespace Session

/-- The kinds of objects. -/
inductive Kind where
  | console
  | stencil
  | logger
  /-- A logger that logs events. -/
  | subscriber
  deriving DecidableEq, Repr

namespace Kind

/-- The objects of a kind. -/
@[reducible]
def Object : Kind → Type
  | console => Console
  | stencil => BoundStencil
  | logger => Log.Logger
  | subscriber => Log.Logger

/-- The sink to which an object is bound. -/
def sink : (kind : Kind) → kind.Object → SinkId
  | console, object => object.sink
  | stencil, object => object.sink
  | logger, object => object.console.sink
  | subscriber, object => object.console.sink

end Kind

end Session

end TerminalDecoration
