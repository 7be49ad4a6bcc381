/-
# Sinks

A sink takes bytes. Delivering a buffer means to write all of it and then to flush once; an empty
buffer is flushed without a write. Two forms of sink matter: a memory that keeps what it gets, and a
scripted sink with a tape of all calls made on it. A caller who tries again after every interruption
may never come to an end; then the sink hangs, and the calls go on round after round.
-/

import TerminalDecoration.Sink.Script

namespace TerminalDecoration

/-- One call on a sink. -/
inductive SinkCall where
  /-- A write that offers so many bytes. -/
  | write (offered : Nat)
  | flush
  deriving DecidableEq, Repr

/-- What has happened on a scripted sink. -/
structure Tape where
  /-- The turns of writing used up. -/
  writeTurns : Nat
  /-- The turns of flushing used up. -/
  flushTurns : Nat
  /-- The interruptions already met in the turn of flushing that comes next. -/
  flushInterruptions : Nat
  /-- All calls, the oldest first. -/
  calls : List SinkCall
  /-- All bytes taken, the oldest first. -/
  taken : List UInt8
  deriving DecidableEq, Repr

/-- What a caller who never comes to an end does in each round. -/
inductive Loop where
  /-- Offers so many bytes, and is interrupted. -/
  | write (offered : Nat)
  /-- Delivers all these bytes, and is interrupted by the flush. -/
  | deliver (bytes : List UInt8)
  deriving DecidableEq, Repr

/-- How a delivery ended. -/
inductive Delivery where
  | done
  | failed (failure : Failure)
  /-- The sink broke down with this message. -/
  | crashed (message : List Char)
  /-- It never ends. -/
  | endless (loop : Loop)
  deriving DecidableEq, Repr

namespace Tape

/-- Before the first call. -/
def blank : Tape := ⟨0, 0, 0, [], []⟩

/-- The tape after one turn of writing in which `offered` bytes are offered, again after each
interruption. -/
def afterWriteTurn (tape : Tape) (interruptions offered : Nat) (bytes : List UInt8) : Tape :=
  { tape with
    writeTurns := tape.writeTurns + 1
    calls := tape.calls ++ List.replicate (interruptions + 1) (.write offered)
    taken := tape.taken ++ bytes }

/-- Offers the bytes, and what is left of them, until all are taken or the sink fails. -/
def writeAll (script : Script) : List UInt8 → Tape → Delivery × Tape
  | [], tape => (.done, tape)
  | b :: bytes, tape =>
    let turn := script.write tape.writeTurns
    let after := tape.afterWriteTurn turn.interruptions (bytes.length + 1)
    match turn.answer with
    | .takeAll => (.done, after (b :: bytes))
    | .take 0 => (.failed .nothingTaken, after [])
    | .take (count + 1) =>
      writeAll script (bytes.drop count) (after (b :: bytes.take count))
    | .fail kind message => (.failed (.final kind message), after [])
    | .crash message => (.crashed message, after [])
    | .never => (.endless (.write (bytes.length + 1)), tape)
termination_by bytes => bytes.length
decreasing_by
  simp only [List.length_drop, List.length_cons]
  omega

/-- Flushes once. -/
def flush (script : Script) (tape : Tape) : Delivery × Tape :=
  let turn := script.flush tape.flushTurns
  let tape := { tape with calls := tape.calls ++ [.flush] }
  match turn.interruptions[tape.flushInterruptions]? with
  | some message =>
    (.failed (.interrupted message),
      { tape with flushInterruptions := tape.flushInterruptions + 1 })
  | none =>
    let next := { tape with flushTurns := tape.flushTurns + 1, flushInterruptions := 0 }
    match turn.answer with
    | .done => (.done, next)
    | .fail kind message => (.failed (.final kind message), next)
    | .crash message => (.crashed message, next)
    | .never message => (.failed (.interrupted message), tape)

/-- Writes all bytes, then flushes, unless the writing failed. -/
def deliver (script : Script) (bytes : List UInt8) (tape : Tape) : Delivery × Tape :=
  match writeAll script bytes tape with
  | (.done, tape) => flush script tape
  | other => other

section

variable (script : Script) (bytes : List UInt8)

/-- Delivers the whole buffer again as long as the flush is interrupted. There is no outcome if that
goes on for ever. -/
def deliverAgain (tape : Tape) : Option (Delivery × Tape) :=
  match deliver script bytes tape with
  | (.failed (.interrupted _), tape) => by
    apply deliverAgain
    exact tape
  | other => some other
partial_fixpoint

end

/-- The tape after one round of a loop. -/
def afterRound (script : Script) (tape : Tape) : Loop → Tape
  | .write offered => { tape with calls := tape.calls ++ [.write offered] }
  | .deliver bytes => (deliver script bytes tape).2

/-- The tape after so many rounds of a loop. -/
def afterRounds (script : Script) (loop : Loop) (rounds : Nat) (tape : Tape) : Tape :=
  Nat.repeat (afterRound script · loop) rounds tape

end Tape

/-- Something that takes bytes. -/
inductive Sink where
  /-- Keeps all bytes. -/
  | memory (bytes : List UInt8)
  /-- Behaves as the script says. -/
  | scripted (script : Script) (tape : Tape)
  /-- Behaves as the script says, and has a caller who never comes to an end. The tape is that before
  the first round. -/
  | hung (script : Script) (tape : Tape) (loop : Loop)

namespace Sink

/-- How a delivery on a scripted sink ended, with the sink afterwards. -/
def settle (script : Script) : Delivery × Tape → Delivery × Sink
  | (.endless loop, tape) => (.endless loop, hung script tape loop)
  | (delivery, tape) => (delivery, scripted script tape)

/-- Writes all bytes, then flushes. Nobody gets through to a sink that hangs. -/
def deliver (bytes : List UInt8) : Sink → Delivery × Sink
  | memory kept => (.done, memory (kept ++ bytes))
  | scripted script tape => settle script (tape.deliver script bytes)
  | hung script tape loop => (.endless loop, hung script tape loop)

/-- Delivers the whole buffer again as long as the delivery is interrupted. -/
def deliverUninterrupted (bytes : List UInt8) : Sink → Delivery × Sink
  | scripted script tape =>
    settle script ((tape.deliverAgain script bytes).getD (.endless (.deliver bytes), tape))
  | sink => sink.deliver bytes

/-- The sink after so many rounds of a loop on it. -/
def afterRounds (rounds : Nat) : Sink → Sink
  | hung script tape loop => scripted script (tape.afterRounds script loop rounds)
  | sink => sink

/-- The bytes that the sink has taken; a sink that hangs, before the first round. -/
def taken : Sink → List UInt8
  | memory bytes => bytes
  | scripted _ tape => tape.taken
  | hung _ tape _ => tape.taken

/-- The calls made on a scripted sink; if it hangs, before the first round. -/
def calls : Sink → List SinkCall
  | memory _ => []
  | scripted _ tape => tape.calls
  | hung _ tape _ => tape.calls

end Sink

/-- Which sink is meant: a stream of the process or one that has a name. -/
inductive SinkId where
  | output
  | error
  | named (name : String)
  deriving DecidableEq, Repr

namespace SinkId

/-- How diagnostics refer to the sink. -/
def label : SinkId → List Char
  | output => "<stdout>".toList
  | error => "<stderr>".toList
  | named name => '<' :: name.toList ++ ['>']

end SinkId

end TerminalDecoration
