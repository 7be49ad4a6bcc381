/-
# Sessions

A session holds all live objects by name, with the one style cache and the one limit of reports that
they share, and carries out commands on them. A command makes changes to the session, has an answer,
and causes reports, of which those within the limit are seen. A command that never comes to an end
is the last one of its session.
-/

import TerminalDecoration.Filter.Store
import TerminalDecoration.Session.Answer
import TerminalDecoration.Session.Command
import TerminalDecoration.Session.Object

namespace TerminalDecoration

/-- All live objects and what they share. -/
structure Session where
  terminal : Terminal
  /-- Whether the terminal was looked at. -/
  probed : Bool
  /-- Which reports are seen. -/
  limit : Log.Limit
  cache : Style.Cache
  sinks : Table SinkId Sink
  filters : Filter.Store
  consoles : Table Handle Console
  stencils : Table Handle BoundStencil
  loggers : Table Handle Log.Logger
  subscribers : Table Handle Log.Logger

namespace Session

/-- A session on this terminal with these sinks, before the first command. -/
def start (terminal : Terminal) (sinks : Table SinkId Sink) : Session where
  terminal := terminal
  probed := false
  limit := .upTo .trace
  cache := .empty
  sinks := sinks
  filters := .empty
  consoles := .empty
  stencils := .empty
  loggers := .empty
  subscribers := .empty

/-- Whether new consoles decorate unless told otherwise. -/
def decorated (s : Session) : Bool := s.terminal.isDecorated

/-- The objects of a kind. -/
def table (s : Session) : (kind : Kind) → Table Handle kind.Object
  | .console => s.consoles
  | .stencil => s.stencils
  | .logger => s.loggers
  | .subscriber => s.subscribers

/-- The session with other objects of a kind. -/
def setTable (s : Session) : (kind : Kind) → Table Handle kind.Object → Session
  | .console, table => { s with consoles := table }
  | .stencil, table => { s with stencils := table }
  | .logger, table => { s with loggers := table }
  | .subscriber, table => { s with subscribers := table }

/-! ## Changes -/

/-- One change of a session. -/
inductive Change where
  /-- Sets the limit of reports. -/
  | limit (limit : Log.Limit)
  /-- Takes note of whether the terminal was looked at. -/
  | probed (now : Bool)
  /-- Changes a sink. -/
  | sink (id : SinkId) (sink : Sink)
  /-- Gives a name to an object. -/
  | put (kind : Kind) (id : Handle) (object : kind.Object)
  /-- Takes an object away. -/
  | remove (kind : Kind) (id : Handle)
  /-- Asks something of the filters. -/
  | filter (request : Filter.Request)

/-- The session with a change. -/
def apply (s : Session) : Change → Session
  | .limit limit => { s with limit := limit }
  | .probed now => { s with probed := s.probed || now }
  | .sink id sink => { s with sinks := s.sinks.insert id sink }
  | .put kind id object => s.setTable kind ((s.table kind).insert id object)
  | .remove kind id => s.setTable kind ((s.table kind).erase id)
  | .filter request => { s with filters := s.filters.after request }

/-- What a command does. -/
structure Effect where
  answer : Answer
  /-- What it changes, one after the other. -/
  changes : List Change := []
  /-- The cache afterwards, if the command looks styles up. -/
  cache? : Option Style.Cache := none
  /-- All that it reports, seen or not. -/
  reports : List Diagnostic := []

namespace Effect

/-- The command names an object that is not there. -/
def unknown : Effect where
  answer := .unknown

end Effect

variable (s : Session)

/-- Lets `act` say what a command does to an object. -/
def withObject (kind : Kind) (id : Handle) (act : kind.Object → Effect) : Effect :=
  match (s.table kind).get? id with
  | none => .unknown
  | some object => act object

/-- Lets `act` say what a command does to a sink. -/
def withSink (id : SinkId) (act : Sink → Effect) : Effect :=
  match s.sinks.get? id with
  | none => .unknown
  | some sink => act sink

/-- Lets `act` say what a command does through a filter. -/
def withFilter (id : Handle) (act : Filter.Cell → Effect) : Effect :=
  match s.filters.find? id with
  | none => .unknown
  | some cell => act cell

/-- Lets `act` deliver something to a sink, and answers how that ended. -/
def deliverTo (id : SinkId) (act : Sink → Delivery × Sink) (answer : Delivery → Answer) :
    Effect :=
  s.withSink id fun sink =>
    let (delivery, sink) := act sink
    { answer := answer delivery, changes := [.sink id sink] }

/-- Lets `act` answer for the bytes of a memory and change them. -/
def onMemory (id : SinkId) (act : List UInt8 → Answer × List UInt8) : Effect :=
  s.withSink id fun
    | .memory bytes =>
      let (answer, bytes) := act bytes
      { answer := answer, changes := [.sink id (.memory bytes)] }
    | _ => .unknown

/-- Moves the indentation of a console so many steps. -/
def shiftConsole (id : Handle) (shift : Console → Console) (times : Nat) : Effect :=
  s.withObject .console id fun console =>
    let console := Nat.repeat shift times console
    { answer := .depth console.depth console.layout.indent
      changes := [.put .console id console] }

/-- Opens a console. The terminal is looked at if the options leave it to decide; the first time,
this is reported. -/
def openConsole (id : Handle) (options : Console.Options) : Effect :=
  let console := Console.ofOptions s.decorated options
  let asked := options.disabled.isNone
  { answer := .console console
    changes := [.probed asked, .put .console id console]
    reports :=
      (if asked && !s.probed then [.terminalProbed s.decorated s.terminal.streams] else []) ++
        [console.opened] }

/-- Prints one line in a style. -/
def print (id : Handle) (overwrite : Bool) (style text : List Char) : Effect :=
  s.withObject .console id fun console =>
    s.withSink console.sink fun sink =>
      let printed := console.print overwrite style text s.cache sink
      { answer := .ofPrinting printed.result
        changes := [.sink console.sink printed.sink]
        cache? := some printed.cache
        reports := printed.reports }

/-- Makes a stencil of a style. -/
def makeStencil (consoleId : Handle) (style : List Char) (id : Handle) : Effect :=
  s.withObject .console consoleId fun console =>
    let lookup := Style.lookup s.cache style
    match lookup.result with
    | .error e => { answer := .refused e, cache? := some lookup.cache, reports := lookup.reports }
    | .ok style =>
      let stencil := console.stencil style
      { answer := .stencil stencil.isCompound console.sink
        changes := [.put .stencil id ⟨console.sink, stencil⟩]
        cache? := some lookup.cache
        reports := lookup.reports }

/-- Looks a style up. -/
def lookupStyle (name : List Char) : Effect :=
  let lookup := Style.lookup s.cache name
  { answer := .ofReading lookup.result, cache? := some lookup.cache, reports := lookup.reports }

/-- Looks styles up one after the other and tells, from `place` on, which ones the cache did not
know. -/
def lookupAllFrom (place : Nat) : List (List Char) → Style.Cache → Style.Cache × List Nat
  | [], cache => (cache, [])
  | name :: names, cache =>
    let missed := if (cache.find? name).isSome then [] else [place]
    let (last, more) := lookupAllFrom (place + 1) names (Style.lookup cache name).cache
    (last, missed ++ more)

/-- Looks styles up without reports. -/
def lookupAll (names : List (List Char)) : Effect :=
  let (cache, missed) := lookupAllFrom 0 names s.cache
  { answer := .missed missed, cache? := some cache }

/-- Asks something of the filters, and answers for the filter of this name afterwards. -/
def askFilters (request : Filter.Request) (id : Handle)
    (answer : Filter.Store → Filter.Cell → Answer) : Effect :=
  let filters := s.filters.after request
  { answer :=
      match filters.find? id with
      | none => .unknown
      | some cell => answer filters cell
    changes := [.filter request]
    reports := s.filters.reports request }

/-- Whether two names stand for one filter. -/
def compareFilters (first second : Handle) : Effect :=
  match s.filters.handles.get? first, s.filters.handles.get? second with
  | some place, some place' => { answer := .flag (place = place') }
  | _, _ => .unknown

section

variable [Log.TimeLibrary]

/-- A logger of a console with these settings, with the reports of refused ones. -/
def configure (console : Console) (options : LoggerOptions) : Log.Logger × List Diagnostic :=
  let fresh := Log.Logger.ofConsole console
  let logger := { fresh with
    limit := options.limit.getD fresh.limit
    showsTime := options.showsTime.getD fresh.showsTime
    showsLevel := options.showsLevel.getD fresh.showsLevel
    showsOrigin := options.showsOrigin.getD fresh.showsOrigin }
  logger.setTimeFormats options.timeFormats

/-- Makes a logger or a subscriber of a console. -/
def makeLogger (id consoleId : Handle) (options : LoggerOptions) (subscriber : Bool) : Effect :=
  s.withObject .console consoleId fun console =>
    let (logger, reports) := configure console options
    { answer := .console console
      changes := [.remove .console consoleId,
        if subscriber then .put .subscriber id logger else .put .logger id logger]
      reports := reports }

/-- Makes a subscriber with default settings of a console. -/
def makeSubscriber (id consoleId : Handle) : Effect :=
  s.withObject .console consoleId fun console =>
    { answer := .done
      changes := [.remove .console consoleId, .put .subscriber id (.ofConsole console)] }

/-- Logs a record. -/
def log (id : Handle) (record : Log.Record) : Effect :=
  s.withObject .logger id fun logger =>
    s.deliverTo logger.console.sink (logger.log record)
      (.ofLogging (.enabled (logger.limit.admits record.level)))

/-- Logs events. -/
def emit (id : Handle) (events : List Log.Event) : Effect :=
  s.withObject .subscriber id fun logger =>
    s.deliverTo logger.console.sink (logger.logEvents events) (.ofDelivery .done)

end

/-- Tries to install a logger. A process has one already, so it is not installed; but it sets the
limit of reports to its own before it finds that out. -/
def installLogger (id : Handle) : Effect :=
  s.withObject .logger id fun logger =>
    { answer := .notInstalled .logger logger.limit
      changes := [.remove .logger id, .limit logger.limit] }

/-- Tries to install a subscriber. A process has one already. -/
def installSubscriber (id : Handle) : Effect :=
  s.withObject .subscriber id fun _ =>
    { answer := .notInstalled .subscriber s.limit
      changes := [.remove .subscriber id] }

/-! ## Commands -/

variable [Log.TimeLibrary]

/-- What each command does. -/
def effect : Command → Effect
  | .openConsole id options => s.openConsole id options
  | .askIndentStep => { answer := .number Console.defaultIndentStep }
  | .indent id times => s.shiftConsole id Console.indent times
  | .outdent id times => s.shiftConsole id Console.outdent times
  | .showConsole id => s.withObject .console id fun console => { answer := .console console }
  | .print id overwrite style text => s.print id overwrite style text
  | .render id text =>
    s.withObject .console id fun console => { answer := .text (console.render text) }
  | .writeRendered id text =>
    s.withObject .console id fun console =>
      s.deliverTo console.sink (Sink.deliver (Text.Utf8.encode (console.render text)))
        (.ofDelivery .done)
  | .makeStencil console style id => s.makeStencil console style id
  | .writeFilled id overwrite text =>
    s.withObject .stencil id fun bound =>
      s.deliverTo bound.sink
        (Sink.deliver (Text.Utf8.encode (bound.stencil.line overwrite text))) (.ofDelivery .done)
  | .showFilled id text =>
    s.withObject .stencil id fun bound =>
      { answer := .filled (bound.stencil.fill text) (bound.stencil.fillOver text) }
  | .lookup style => s.lookupStyle style
  | .lookupAll styles => s.lookupAll styles
  | .write sink bytes => s.deliverTo sink (Sink.deliver bytes) (.ofDelivery .done)
  | .takeMemory sink =>
    s.onMemory sink fun bytes => (.taken (Text.Utf8.decodeLossy bytes) true, [])
  | .showMemory sink =>
    s.onMemory sink fun bytes => (.text (Text.Utf8.decodeLossy bytes), bytes)
  | .askEmpty sink => s.onMemory sink fun bytes => (.flag bytes.isEmpty, bytes)
  | .appendMemory sink more =>
    s.onMemory sink fun bytes => (.accepted more.length, bytes ++ more)
  | .compareSinks first second => { answer := .sameSink (first = second) }
  | .requestFilter registry sink id =>
    s.askFilters (.get registry sink id) id fun filters cell =>
      .filter (filters.registry registry).size (filters.registry registry).isEmpty cell.mode
        cell.sink
  | .cloneFilter filter id => s.askFilters (.copy filter id) filter fun _ _ => .done
  | .showRegistry id =>
    { answer := .registry (s.filters.registry id).size (s.filters.registry id).isEmpty }
  | .setMode id none => s.withFilter id fun cell => { answer := .mode cell.mode }
  | .setMode id (some mode) => s.askFilters (.set id mode) id fun _ cell => .mode cell.mode
  | .compareFilters first second => s.compareFilters first second
  | .filter id text => s.withFilter id fun cell => { answer := .text (cell.mode.apply text) }
  | .writeFilteredText id text =>
    s.withFilter id fun cell =>
      s.deliverTo cell.sink (Filter.deliverText cell.mode text) (.ofDelivery .done)
  | .writeFiltered id bytes =>
    s.withFilter id fun cell =>
      s.deliverTo cell.sink (Filter.deliver cell.mode bytes)
        (.ofDelivery (.accepted bytes.length))
  | .writeAllFiltered id bytes =>
    s.withFilter id fun cell =>
      s.deliverTo cell.sink (Filter.deliverAll cell.mode bytes) (.ofDelivery .done)
  | .makeLogger id console options subscriber => s.makeLogger id console options subscriber
  | .makeSubscriber id console => s.makeSubscriber id console
  | .log id record => s.log id record
  | .showRecord id record =>
    s.withObject .logger id fun logger => { answer := .text (logger.line record) }
  | .installLogger id => s.installLogger id
  | .installSubscriber id => s.installSubscriber id
  | .emit id events => s.emit id events
  | .addGuarded numbers => { answer := .guarded ((Guarded.fresh []).addAll numbers) }

/-- What a command leads to. -/
structure Step where
  session : Session
  answer : Answer
  /-- All reports, seen or not. -/
  reports : List Diagnostic

/-- Carries out a command. -/
def step (command : Command) : Step :=
  let effect := s.effect command
  { session := { effect.changes.foldl apply s with cache := effect.cache?.getD s.cache }
    answer := effect.answer
    reports := effect.reports }

omit [Log.TimeLibrary] in
/-- The reports of a step that are seen: those within the limit that held before it. -/
def seen (step : Step) : List Diagnostic :=
  step.reports.filter fun report => s.limit.admits report.level

/-! ## Runs -/

/-- The session after these commands, or after the first of them that never comes to an end. -/
def run (s : Session) : List Command → Session
  | [] => s
  | command :: commands =>
    let step := s.step command
    if step.answer.isEndless then step.session else step.session.run commands

/-- The course of a run: each command that is carried out, with the session in which it is. -/
def trace (s : Session) : List Command → List (Session × Command)
  | [] => []
  | command :: commands =>
    let step := s.step command
    (s, command) :: if step.answer.isEndless then [] else step.session.trace commands

end Session

end TerminalDecoration
