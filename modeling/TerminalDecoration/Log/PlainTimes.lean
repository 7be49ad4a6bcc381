/-
# Plain times

A small time library. A description is a text with components in brackets, which stand for the parts
of the time of day and of the date, and are written with zeros in front. A backslash before a
bracket or a backslash takes its meaning away, and may stand nowhere else. A closing bracket that
closes nothing is plain text. Components have no settings.
-/

import TerminalDecoration.Control
import TerminalDecoration.Log.TimeLibrary

namespace TerminalDecoration.Log.PlainTimes

/-- What a component shows. -/
inductive Component where
  | year | month | day | hour | minute | second
  deriving DecidableEq, Repr

/-- A number with zeros in front as far as its digits are too few. -/
def padded (width n : Nat) : List Char :=
  let digits := Control.decimal n
  List.replicate (width - digits.length) '0' ++ digits

namespace Component

/-- All components. -/
def all : List Component := [year, month, day, hour, minute, second]

/-- The name between the brackets. -/
def name : Component → List Char
  | year => "year".toList
  | month => "month".toList
  | day => "day".toList
  | hour => "hour".toList
  | minute => "minute".toList
  | second => "second".toList

/-- The component of this name, in letters of any case. -/
def named? (name : List Char) : Option Component :=
  all.find? fun component => component.name = name.map Char.toLower

/-- The part of the time in figures. -/
def render (clock : Clock) : Component → List Char
  | year => (if clock.year < 0 then ['-'] else []) ++ padded 4 clock.year.natAbs
  | month => padded 2 clock.month
  | day => padded 2 clock.day
  | hour => padded 2 clock.hour
  | minute => padded 2 clock.minute
  | second => padded 2 clock.second

end Component

/-- One item of a format. -/
inductive Item where
  | plain (c : Char)
  | part (component : Component)
  deriving DecidableEq, Repr

/-- The text of one item. -/
def Item.render (clock : Clock) : Item → List Char
  | plain c => [c]
  | part component => component.render clock

/-- Blanks may surround the name of a component. -/
def isBlank (c : Char) : Bool := c ∈ [' ', '\t', '\n', '\r', '\x0c']

/-- The text without blanks at its ends. -/
def trim (s : List Char) : List Char :=
  ((s.dropWhile isBlank).reverse.dropWhile isBlank).reverse

/-- The items of a description, if it is one. -/
def parse? : List Char → Option (List Item)
  | [] => some []
  | c :: s =>
    if c = '\\' then
      match s with
      | [] => none
      | d :: s =>
        if d = '[' || d = ']' || d = '\\' then (parse? s).map (.plain d :: ·) else none
    else if c = '[' then
      match _h : s.dropWhile (· ≠ ']') with
      | [] => none
      | _ :: rest =>
        match Component.named? (trim (s.takeWhile (· ≠ ']'))) with
        | none => none
        | some component => (parse? rest).map (.part component :: ·)
    else (parse? s).map (.plain c :: ·)
termination_by s => s.length
decreasing_by
  · simp only [List.length_cons]
    omega
  · have := (List.dropWhile_suffix (l := s) (· ≠ ']')).length_le
    rw [_h] at this
    simp at this ⊢
    omega
  · simp

/-- Date, time of day and offset, one behind the other. -/
def display (clock : Clock) : List Char :=
  let fraction := ((padded 9 clock.nanosecond).reverse.dropWhile (· = '0')).reverse
  let offset := clock.offset.natAbs
  Component.render clock .year ++ '-' :: padded 2 clock.month ++ '-' :: padded 2 clock.day ++
    ' ' :: Control.decimal clock.hour ++ ':' :: padded 2 clock.minute ++
    ':' :: padded 2 clock.second ++ '.' :: (if fraction = [] then ['0'] else fraction) ++
    [' ', if clock.offset < 0 then '-' else '+'] ++ padded 2 (offset / 3600) ++
    ':' :: padded 2 (offset / 60 % 60) ++ ':' :: padded 2 (offset % 60)

/-- The library. -/
scoped instance library : TimeLibrary where
  refusal? description :=
    if (parse? description).isSome then none else some "no format is described so".toList
  write? description clock := (parse? description).map (·.flatMap (Item.render clock))
  display := display

end TerminalDecoration.Log.PlainTimes
