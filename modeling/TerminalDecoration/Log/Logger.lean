/-
# Loggers

A logger writes one line for each record that its limit admits: the time, the level in its color,
the message with its markup rendered, and where the record comes from. What cannot be written is
lost, because a logger has nowhere to complain.
-/

import TerminalDecoration.Console
import TerminalDecoration.Log.TimeLibrary

namespace TerminalDecoration.Log

/-- One record. -/
structure Record where
  /-- What the clock shows when the line is made. -/
  time : Clock
  level : Level
  message : List Char
  file : Option (List Char)
  line : Option Nat
  deriving DecidableEq, Repr

namespace Level

/-- The look of the level. -/
def attributes : Level → List Attribute
  | error => [.effect .bold, .foreground .red]
  | warn => [.foreground .yellow]
  | info => [.foreground .green]
  | debug => [.foreground .blue]
  | trace => [.foreground .white]

/-- The level in its look, with blanks up to five letters. -/
def render (level : Level) (palette : Palette) : List Char :=
  Style.Part.codes ⟨none, level.attributes⟩ palette ++ level.label ++
    List.replicate (5 - level.label.length) ' ' ++ palette.code (.effect .reset)

end Level

/-- The settings of a logger and the console that it writes to. -/
structure Logger where
  console : Console
  limit : Limit
  showsTime : Bool
  showsLevel : Bool
  showsOrigin : Bool
  timeFormat : TimeFormat
  deriving DecidableEq, Repr

namespace Logger

variable [TimeLibrary]

/-- A logger with the settings that hold unless others are made. -/
def ofConsole (console : Console) : Logger where
  console := console
  limit := .upTo .info
  showsTime := true
  showsLevel := true
  showsOrigin := false
  timeFormat := .default

/-- Sets the time format, or reports why there is none of this description. -/
def setTimeFormat (logger : Logger) (description : List Char) : Logger × List Diagnostic :=
  match TimeFormat.ofDescription description with
  | .ok format => ({ logger with timeFormat := format }, [])
  | .error error => (logger, [.timeFormatIgnored description error])

/-- Sets one time format after the other. -/
def setTimeFormats (logger : Logger) : List (List Char) → Logger × List Diagnostic
  | [] => (logger, [])
  | description :: descriptions =>
    let (logger, reports) := logger.setTimeFormat description
    let (logger, more) := logger.setTimeFormats descriptions
    (logger, reports ++ more)

/-- The time in brackets, if it is shown. -/
def timeText (logger : Logger) (time : Clock) : List Char :=
  if logger.showsTime then '[' :: logger.timeFormat.render time ++ [']', ' '] else []

/-- The level, if it is shown. -/
def levelText (logger : Logger) (level : Level) : List Char :=
  if logger.showsLevel then level.render logger.console.palette ++ [' '] else []

/-- The file and the line, if they are shown and known. -/
def originText (logger : Logger) (record : Record) : List Char :=
  match logger.showsOrigin, record.file with
  | true, some file =>
    ' ' :: file ++ (record.line.map fun line => ':' :: Control.decimal line).getD []
  | _, _ => []

/-- The line of a record, whatever its level is. -/
def line (logger : Logger) (record : Record) : List Char :=
  List.replicate logger.console.layout.indent ' ' ++ logger.timeText record.time ++
    logger.levelText record.level ++ logger.console.render record.message ++
    logger.originText record ++ ['\n']

/-- Delivers the line of a record if the limit admits it. -/
def log (logger : Logger) (record : Record) (sink : Sink) : Delivery × Sink :=
  if logger.limit.admits record.level then
    sink.deliver (Text.Utf8.encode (logger.line record))
  else (.done, sink)

end Logger

end TerminalDecoration.Log
