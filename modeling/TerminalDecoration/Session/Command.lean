/-
# Commands

What can be asked of a session. Consoles, stencils, filters, registries, loggers and subscribers are
known by their names; so are sinks, except for the streams of the process.
-/

import TerminalDecoration.Log.Event
import TerminalDecoration.Table

namespace TerminalDecoration.Session

/-- Settings for a new logger; what is not set keeps its default. -/
structure LoggerOptions where
  limit : Option Log.Limit
  showsTime : Option Bool
  showsLevel : Option Bool
  showsOrigin : Option Bool
  /-- Set one after the other. -/
  timeFormats : List (List Char)
  deriving DecidableEq, Repr

/-- One command. -/
inductive Command where
  /-- Opens a console. -/
  | openConsole (id : Handle) (options : Console.Options)
  /-- Asks for the step of indentation that consoles have by default. -/
  | askIndentStep
  /-- Indents a console so many steps. -/
  | indent (console : Handle) (times : Nat)
  /-- Takes so many steps of indentation back. -/
  | outdent (console : Handle) (times : Nat)
  /-- Shows the state of a console. -/
  | showConsole (console : Handle)
  /-- Prints one line in a style, over the line above if `overwrite` says so. -/
  | print (console : Handle) (overwrite : Bool) (style text : List Char)
  /-- Renders markup for a console. -/
  | render (console : Handle) (text : List Char)
  /-- Renders markup for a console and writes it. -/
  | writeRendered (console : Handle) (text : List Char)
  /-- Makes a stencil of a style for the sink of a console. -/
  | makeStencil (console : Handle) (style : List Char) (id : Handle)
  /-- Fills a stencil and writes the line, over the line above if `overwrite` says so. -/
  | writeFilled (stencil : Handle) (overwrite : Bool) (text : List Char)
  /-- Fills a stencil both ways. -/
  | showFilled (stencil : Handle) (text : List Char)
  /-- Looks a style up. -/
  | lookup (style : List Char)
  /-- Looks many styles up, without reports. -/
  | lookupAll (styles : List (List Char))
  /-- Writes bytes to a sink. -/
  | write (sink : SinkId) (bytes : List UInt8)
  /-- Empties a memory. -/
  | takeMemory (sink : SinkId)
  /-- Shows what a memory keeps. -/
  | showMemory (sink : SinkId)
  /-- Asks whether a memory is empty. -/
  | askEmpty (sink : SinkId)
  /-- Adds bytes to a memory. -/
  | appendMemory (sink : SinkId) (bytes : List UInt8)
  /-- Asks whether two sinks are one. -/
  | compareSinks (first second : SinkId)
  /-- Asks a registry for the filter of a sink. -/
  | requestFilter (registry : Handle) (sink : SinkId) (id : Handle)
  /-- Copies a filter under a second name. -/
  | cloneFilter (filter id : Handle)
  /-- Shows the size of a registry. -/
  | showRegistry (registry : Handle)
  /-- Shows the mode of a filter, after setting it if there is one to set. -/
  | setMode (filter : Handle) (mode : Option Filter.Mode)
  /-- Asks whether two filters are one. -/
  | compareFilters (first second : Handle)
  /-- Shows what passes a filter. -/
  | filter (filter : Handle) (text : List Char)
  /-- Writes a text through a filter. -/
  | writeFilteredText (filter : Handle) (text : List Char)
  /-- Writes bytes through a filter, once. -/
  | writeFiltered (filter : Handle) (bytes : List UInt8)
  /-- Writes bytes through a filter, again after each interruption. -/
  | writeAllFiltered (filter : Handle) (bytes : List UInt8)
  /-- Makes a logger, or a subscriber that logs events, of a console. The console is gone then. -/
  | makeLogger (id console : Handle) (options : LoggerOptions) (subscriber : Bool)
  /-- Makes a subscriber with default settings of a console. The console is gone then. -/
  | makeSubscriber (id console : Handle)
  /-- Logs a record. -/
  | log (logger : Handle) (record : Log.Record)
  /-- Shows the line of a record. -/
  | showRecord (logger : Handle) (record : Log.Record)
  /-- Tries to install a logger for the whole process. It is gone then. -/
  | installLogger (logger : Handle)
  /-- Tries to install a subscriber for the whole process. It is gone then. -/
  | installSubscriber (subscriber : Handle)
  /-- Logs events. -/
  | emit (subscriber : Handle) (events : List Log.Event)
  /-- Adds numbers to a guarded list. -/
  | addGuarded (numbers : List Int)
  deriving DecidableEq, Repr

end TerminalDecoration.Session
