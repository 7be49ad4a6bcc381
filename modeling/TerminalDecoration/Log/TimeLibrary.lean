/-
# Time formats

How a time is written is left to a time library, which reads descriptions of formats and refuses
those that it does not understand. A format is known by the description that it was read from.
-/

namespace TerminalDecoration.Log

/-- A date and a time of day, with the seconds by which it is ahead of universal time. -/
structure Clock where
  year : Int
  month : Nat
  day : Nat
  hour : Nat
  minute : Nat
  second : Nat
  nanosecond : Nat
  offset : Int
  deriving DecidableEq, Repr

/-- What a logger needs of a time library. -/
class TimeLibrary where
  /-- Why a description is refused, if it is. -/
  refusal? : List Char → Option (List Char)
  /-- The time in the format of a description, if the library can write it. -/
  write? : List Char → Clock → Option (List Char)
  /-- The time as it is written without a format. -/
  display : Clock → List Char

/-- How a logger writes the time. -/
inductive TimeFormat where
  | described (description : List Char)
  /-- Writes nothing. -/
  | empty
  deriving DecidableEq, Repr

namespace TimeFormat

/-- Hours, minutes and seconds, with colons between. -/
def defaultDescription : List Char := "[hour]:[minute]:[second]".toList

variable [TimeLibrary]

/-- The format that a description stands for, or why it is refused. -/
def ofDescription (description : List Char) : Except (List Char) TimeFormat :=
  match TimeLibrary.refusal? description with
  | some error => .error error
  | none => .ok (described description)

/-- The format used unless another is set. -/
def default : TimeFormat :=
  match ofDescription defaultDescription with
  | .ok format => format
  | .error _ => empty

/-- The time in this format, or as it is written without one. -/
def render (clock : Clock) : TimeFormat → List Char
  | described description =>
    (TimeLibrary.write? description clock).getD (TimeLibrary.display clock)
  | empty => []

end TimeFormat

end TerminalDecoration.Log
