/-
# Whether a terminal is decorated

The decision rests on four environment variables and on what is known of the output streams. To
switch decoration off wins over everything; to force it wins over the rest. A process decides once,
when it first has to know.
-/

namespace TerminalDecoration

namespace Terminal

/-- The variables consulted; a variable that is unset or no text is `none`. -/
structure Environment where
  /-- Switches decoration off, for this library. -/
  disable : Option (List Char)
  /-- Switches color off, for all programs. -/
  noColor : Option (List Char)
  /-- Forces decoration. -/
  force : Option (List Char)
  /-- The kind of the terminal. -/
  term : Option (List Char)
  deriving DecidableEq, Repr

/-- What is known of the output streams. -/
structure Streams where
  outputIsTerminal : Bool
  errorIsTerminal : Bool
  /-- Whether a terminal reads control strings at all. -/
  readsControls : Bool
  deriving DecidableEq, Repr

/-- A variable counts as given when it holds any character. -/
def isGiven : Option (List Char) → Bool
  | none => false
  | some value => !value.isEmpty

namespace Environment

/-- Whether decoration is switched off. -/
def disables (env : Environment) : Bool := isGiven env.disable || isGiven env.noColor

/-- Whether decoration is forced. -/
def forces (env : Environment) : Bool := isGiven env.force

/-- Whether the terminal says that it reads control strings. -/
def saysAnsi (env : Environment) : Bool := env.term == some "ANSI".toList

/-- Whether to decorate, given the streams. -/
def decorates (env : Environment) (streams : Streams) : Bool :=
  if env.disables then false
  else if env.forces then true
  else
    [streams.outputIsTerminal, streams.errorIsTerminal].any fun isTerminal =>
      env.saysAnsi || (isTerminal && streams.readsControls)

/-- The decision when it is the same whatever the streams are. -/
def decided? (env : Environment) : Option Bool :=
  if env.disables then some false
  else if env.forces || env.saysAnsi then some true
  else none

end Environment

end Terminal

/-- The terminal of a process. -/
structure Terminal where
  environment : Terminal.Environment
  streams : Terminal.Streams
  deriving DecidableEq, Repr

namespace Terminal

/-- Whether the terminal is decorated. -/
def isDecorated (terminal : Terminal) : Bool := terminal.environment.decorates terminal.streams

/-- A terminal on which decoration is forced, though no stream is one. -/
def forced : Terminal := ⟨⟨none, none, some ['1'], none⟩, ⟨false, false, true⟩⟩

end Terminal

end TerminalDecoration
