/-
# Scripted sinks

A script fixes how a sink behaves, whatever it is sent. Its answers come in turns: in one turn the
sink may interrupt its caller any number of times before it answers, and it may go on to do so for
ever. A caller that tries again after every interruption uses up one turn of writing for each
answer. A flush is not tried again, so its caller sees each interruption, with a message.
-/

import TerminalDecoration.Sink.Failure

namespace TerminalDecoration

/-- How a sink answers to the bytes it is offered. -/
inductive WriteAnswer where
  /-- It takes them all. -/
  | takeAll
  /-- It takes so many of them, or all if they are fewer. -/
  | take (count : Nat)
  /-- It takes none of them and fails. -/
  | fail (kind : FailureKind) (message : List Char)
  /-- It breaks down, and the caller with it. -/
  | crash (message : List Char)
  /-- It never answers: from here on every write is interrupted. -/
  | never
  deriving DecidableEq, Repr

/-- One turn of writing. -/
structure WriteTurn where
  /-- How often the caller is interrupted first. -/
  interruptions : Nat
  answer : WriteAnswer
  deriving DecidableEq, Repr

/-- How a sink answers to a flush. -/
inductive FlushAnswer where
  | done
  | fail (kind : FailureKind) (message : List Char)
  /-- The sink breaks down, and the caller with it. -/
  | crash (message : List Char)
  /-- From here on every flush is interrupted. -/
  | never (message : List Char)
  deriving DecidableEq, Repr

/-- One turn of flushing. -/
structure FlushTurn where
  /-- The messages of the interruptions that come first. -/
  interruptions : List (List Char)
  answer : FlushAnswer
  deriving DecidableEq, Repr

/-- The behaviour of a sink, turn by turn. -/
structure Script where
  write : Nat → WriteTurn
  flush : Nat → FlushTurn

namespace Script

/-- A turn of writing without interruption that takes everything. -/
def taking : WriteTurn := ⟨0, .takeAll⟩

/-- A turn of flushing that works. -/
def flushing : FlushTurn := ⟨[], .done⟩

/-- Takes everything. -/
def accepting : Script := ⟨fun _ => taking, fun _ => flushing⟩

/-- Answers to every write from number `first` on in this way, and takes everything before. -/
def answeringFrom (first : Nat) (answer : WriteAnswer) : Script where
  write i := if i < first then taking else ⟨0, answer⟩
  flush _ := flushing

/-- Answers to write number `index` in this way, and takes everything else. -/
def answeringAt (index : Nat) (answer : WriteAnswer) : Script where
  write i := if i = index then ⟨0, answer⟩ else taking
  flush _ := flushing

/-- Interrupts its caller so often at the start, and takes everything after. -/
def interrupting (count : Nat) : Script where
  write i := if i = 0 then ⟨count, .takeAll⟩ else taking
  flush _ := flushing

/-- Takes everything, and answers to every flush in this way. -/
def flushingWith (answer : FlushAnswer) : Script where
  write _ := taking
  flush _ := ⟨[], answer⟩

end Script

end TerminalDecoration
