/-
# Filters

A filter stands before a sink and renders the markup of every text that is written through it. Each
write is rendered by itself. Bytes that are no text are passed on as they are.
-/

import TerminalDecoration.Markup.Plain
import TerminalDecoration.Markup.Resolve
import TerminalDecoration.Sink
import TerminalDecoration.Text.Utf8
import TerminalDecoration.Text.Word

namespace TerminalDecoration.Filter

/-- What a filter does to a text. -/
inductive Mode where
  /-- Nothing; so every filter begins. -/
  | off
  /-- Markup becomes codes. -/
  | resolve
  /-- Markup is removed. -/
  | plain
  deriving DecidableEq, Repr

namespace Mode

/-- The mode as diagnostics show it. -/
def label : Mode → List Char
  | off => "Disabled".toList
  | resolve => "Translate".toList
  | plain => "Ignore".toList

/-- The text that passes the filter. -/
def apply : Mode → List Char → List Char
  | off, s => s
  | resolve, s => Markup.resolve s
  | plain, s => Markup.plain s

/-- The bytes that pass the filter. -/
def applyBytes (mode : Mode) (bytes : List UInt8) : List UInt8 :=
  match Text.Utf8.decode? bytes with
  | some s => Text.Utf8.encode (mode.apply s)
  | none => bytes

end Mode

/-- Delivers a text through a filter. -/
def deliverText (mode : Mode) (s : List Char) (sink : Sink) : Delivery × Sink :=
  sink.deliver (Text.Utf8.encode (mode.apply s))

/-- Delivers bytes through a filter in one write. -/
def deliver (mode : Mode) (bytes : List UInt8) (sink : Sink) : Delivery × Sink :=
  sink.deliver (mode.applyBytes bytes)

/-- Delivers bytes through a filter, trying again after each interruption, if there are any bytes.
The flush at the end does nothing more, because each delivery has flushed the sink. -/
def deliverAll (mode : Mode) (bytes : List UInt8) (sink : Sink) : Delivery × Sink :=
  if bytes = [] then (.done, sink)
  else sink.deliverUninterrupted (mode.applyBytes bytes)

end TerminalDecoration.Filter
