/-
# Diagnostics

What the library reports of its own work, for whoever debugs a program that uses it. Each report has
a level, a topic and a message.
-/

import TerminalDecoration.Filter
import TerminalDecoration.Line.Layout
import TerminalDecoration.Log.Level
import TerminalDecoration.Style
import TerminalDecoration.Terminal
import TerminalDecoration.Text.Quoted

namespace TerminalDecoration

/-- One report. -/
inductive Diagnostic where
  /-- A style name was not in the cache. -/
  | parsing (name : List Char)
  /-- A style name was refused. -/
  | refused (error : NameError)
  /-- A console was opened. -/
  | consoleOpened (palette : Palette) (flags : Line.Flags) (indentStep : Nat)
  /-- A sink got its filter. -/
  | filterAdded (sink : SinkId)
  /-- A filter changed its mode. -/
  | modeChanged (sink : SinkId) (before after : Filter.Mode)
  /-- The description of a time format was refused for this reason. -/
  | timeFormatIgnored (description error : List Char)
  /-- The terminal was looked at. -/
  | terminalProbed (decorated : Bool) (streams : Terminal.Streams)
  deriving DecidableEq, Repr

namespace Diagnostic

/-- How much the report matters. -/
def level : Diagnostic → Log.Level
  | parsing _ => .trace
  | _ => .debug

/-- What the report is about. -/
def topic : Diagnostic → List Char
  | parsing _ => "couleur::combination".toList
  | refused _ => "couleur::combination".toList
  | consoleOpened .. => "couleur::shell".toList
  | filterAdded _ => "couleur::proxy".toList
  | modeChanged .. => "couleur::proxy".toList
  | timeFormatIgnored .. => "couleur::logging".toList
  | terminalProbed .. => "couleur::terminal".toList

/-- A truth value in words. -/
def truth (b : Bool) : List Char := if b then "true".toList else "false".toList

/-- The report in words. -/
def message : Diagnostic → List Char
  | parsing name => "parsing combination '".toList ++ name ++ "'".toList
  | refused error => "rejected combination: ".toList ++ error.message
  | consoleOpened palette flags indentStep =>
    "shell ready: palette=".toList ++ palette.label ++ " flags=".toList ++ flags.label ++
      " indent_factor=".toList ++ Control.decimal indentStep
  | filterAdded sink =>
    "registering proxy for Output \x7b id: ".toList ++ sink.label ++ " \x7d".toList
  | modeChanged sink before after =>
    "proxy for output ".toList ++ sink.label ++ " switched from ".toList ++ before.label ++
      " to ".toList ++ after.label
  | timeFormatIgnored description error =>
    "ignoring time format ".toList ++ Text.Quoted.encode description ++ ": ".toList ++ error
  | terminalProbed decorated streams =>
    "ansi support: ".toList ++ truth decorated ++ " (Streams \x7b stdout_tty: ".toList ++
      truth streams.outputIsTerminal ++ ", stderr_tty: ".toList ++
      truth streams.errorIsTerminal ++ ", virtual_terminal: ".toList ++
      truth streams.readsControls ++ " \x7d)".toList

/-- The whole line: level, topic and message. -/
def line (d : Diagnostic) : List Char :=
  d.level.label ++ ' ' :: d.topic ++ ' ' :: d.message

end Diagnostic

end TerminalDecoration
