/-
# Events

An event is a record in fields. One of them is the message; the others follow it as keys and values
in the order in which they were recorded.
-/

import TerminalDecoration.Log.Logger
import TerminalDecoration.Text.Quoted

namespace TerminalDecoration.Log

/-- The value of a field. -/
inductive Value where
  | text (s : List Char)
  /-- A text shown between quotes. -/
  | quoted (s : List Char)
  | integer (n : Int)
  | flag (b : Bool)
  deriving DecidableEq, Repr

/-- The value as it is shown. -/
def Value.render : Value → List Char
  | text s => s
  | quoted s => Text.Quoted.encode s
  | integer n => (if n < 0 then ['-'] else []) ++ Control.decimal n.natAbs
  | flag b => if b then "true".toList else "false".toList

/-- A named value. -/
structure Field where
  key : List Char
  value : Value
  deriving DecidableEq, Repr

namespace Field

/-- The key of the message. -/
def messageKey : List Char := "message".toList

/-- Whether the field is the message. -/
def isMessage (field : Field) : Bool := field.key == messageKey

/-- The field as key and value. -/
def render (field : Field) : List Char := field.key ++ '=' :: field.value.render

end Field

/-- An event, its fields in the order in which they were recorded. -/
structure Event where
  /-- What the clock shows when the line is made. -/
  time : Clock
  level : Level
  file : Option (List Char)
  line : Option Nat
  fields : List Field
  deriving DecidableEq, Repr

namespace Event

/-- What has been read of the fields so far: the last message, and all other fields. -/
structure Reading where
  message : Option (List Char)
  others : List Field

/-- Reads one field. -/
def Reading.add (reading : Reading) (field : Field) : Reading :=
  if field.isMessage then { reading with message := some field.value.render }
  else { reading with others := reading.others ++ [field] }

/-- Reads all fields. -/
def reading (event : Event) : Reading := event.fields.foldl Reading.add ⟨none, []⟩

/-- Adds a field to a text, with a blank between unless the text is empty. -/
def addField (text : List Char) (field : Field) : List Char :=
  (if text = [] then [] else text ++ [' ']) ++ field.render

/-- The text of an event: its message, then the other fields. -/
def text (event : Event) : List Char :=
  event.reading.others.foldl addField (event.reading.message.getD [])

/-- The record that stands for the event. -/
def record (event : Event) : Record :=
  ⟨event.time, event.level, event.text, event.file, event.line⟩

end Event

namespace Logger

variable [TimeLibrary]

/-- Logs events one after the other, up to one at which the sink breaks down or hangs. Failures are
passed over. -/
def logEvents (logger : Logger) : List Event → Sink → Delivery × Sink
  | [], sink => (.done, sink)
  | event :: events, sink =>
    match logger.log event.record sink with
    | (.crashed message, sink) => (.crashed message, sink)
    | (.endless loop, sink) => (.endless loop, sink)
    | (_, sink) => logger.logEvents events sink

end Logger

end TerminalDecoration.Log
