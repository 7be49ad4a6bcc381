/-
# Consoles

A console writes decorated lines to one sink. It keeps the depth of the indentation, the flags of
its lines, and the palette that was chosen for its sink when it was opened. The depth is a signed
number of 64 bits that stops at its ends.
-/

import TerminalDecoration.Line.Stencil
import TerminalDecoration.Style.Cache

namespace TerminalDecoration

/-- The state of a console. -/
structure Console where
  sink : SinkId
  /-- The spaces of one step of indentation. -/
  indentStep : Nat
  /-- The spaces before each line; a negative depth writes none. -/
  depth : Int
  flags : Line.Flags
  palette : Palette
  deriving DecidableEq, Repr

namespace Console

/-- The step of indentation unless another is chosen. -/
def defaultIndentStep : Nat := 2

/-- The greatest depth. -/
def maxDepth : Int := 9223372036854775807

/-- The least depth. -/
def minDepth : Int := -9223372036854775808

/-- What may be chosen for a new console. -/
structure Options where
  sink : Option SinkId
  indentStep : Option Nat
  linebreak : Option Bool
  bold : Option Bool
  disabled : Option Bool
  deriving DecidableEq, Repr

/-- Nothing chosen. -/
def Options.none : Options := ⟨.none, .none, .none, .none, .none⟩

/-- A new console. What is not chosen has its default: the output stream, no flags, and decoration
as far as the terminal is `decorated`. -/
def ofOptions (decorated : Bool) (options : Options) : Console where
  sink := options.sink.getD .output
  indentStep := options.indentStep.getD defaultIndentStep
  depth := 0
  flags := ⟨options.bold.getD false, options.linebreak.getD false⟩
  palette := .ofDisabled (options.disabled.getD (!decorated))

/-- The report about a new console. -/
def opened (console : Console) : Diagnostic :=
  .consoleOpened console.palette console.flags console.indentStep

/-- One step deeper. -/
def indent (console : Console) : Console :=
  { console with depth := min (console.depth + console.indentStep) maxDepth }

/-- One step back. -/
def outdent (console : Console) : Console :=
  { console with depth := max (console.depth - console.indentStep) minDepth }

/-- The layout of a line written now. -/
def layout (console : Console) : Line.Layout := ⟨console.depth.toNat, console.flags⟩

/-- The stencil of a style for lines written now. -/
def stencil (console : Console) (style : Style) : Line.Stencil :=
  .ofStyle style console.palette console.layout

/-- The text with its markup rendered for the palette. -/
def render (console : Console) (text : List Char) : List Char :=
  if console.palette.isPlain then Markup.plain text else Markup.resolve text

/-- Why a line was not printed. -/
inductive PrintError where
  | name (error : NameError)
  | sink (failure : Failure)
  deriving DecidableEq, Repr

namespace PrintError

/-- The cause in words. -/
def cause : PrintError → List Char
  | name error => error.message
  | sink failure => failure.message

/-- The error in words. -/
def message : PrintError → List Char
  | name error => "lookup failed: ".toList ++ error.message
  | sink failure => "write failed: ".toList ++ failure.message

end PrintError

/-- What printing one line gives. -/
structure Printed where
  /-- The fault in the style name, or how the delivery of the line ended. -/
  result : Except NameError Delivery
  /-- The cache afterwards. -/
  cache : Style.Cache
  /-- The sink afterwards. -/
  sink : Sink
  reports : List Diagnostic

/-- Looks the style up, fills its stencil with the text, and delivers the line, which is drawn over
the line above if `overwrite` says so. Nothing is written if the name is refused. -/
def print (console : Console) (overwrite : Bool) (name text : List Char) (cache : Style.Cache)
    (sink : Sink) : Printed :=
  let lookup := Style.lookup cache name
  match lookup.result with
  | .error e => ⟨.error e, lookup.cache, sink, lookup.reports⟩
  | .ok style =>
    let line := (console.stencil style).line overwrite text
    let (delivery, sink) := sink.deliver (Text.Utf8.encode line)
    ⟨.ok delivery, lookup.cache, sink, lookup.reports⟩

end Console

end TerminalDecoration
