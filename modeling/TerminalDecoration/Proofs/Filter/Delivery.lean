/-
# Delivery through a filter

A filter renders a buffer once and delivers the whole of it with every attempt. A caller that tries
again after an interruption cannot know whether the interruption came before the bytes were taken or
after: an interrupted write is tried again by the delivery itself and costs nothing, but after an
interrupted flush the sink has all bytes already and gets them once more.
-/

import TerminalDecoration.Filter
import TerminalDecoration.Proofs.Sink.Course

namespace TerminalDecoration.Filter

/-- Delivering all bytes to a sink that is interrupted only so often comes to an end. The sink gets
one whole copy of the rendered bytes for each interrupted flush, and then a front of them, which is
all of them if the delivery succeeds. So it gets no byte twice if the next flush is not
interrupted. -/
theorem deliverAll_copies (mode : Mode) {bytes : List UInt8} (hbytes : bytes ≠ [])
    {script : Script} (hanswers : script.AnswersWrites) (tape : Tape)
    (hsettles : ∀ message, (script.flush tape.flushTurns).answer ≠ .never message) :
    ∃ delivery after copies part,
      deliverAll mode bytes (.scripted script tape) = (delivery, .scripted script after) ∧
      part <+: mode.applyBytes bytes ∧
      after.taken =
        tape.taken ++ (List.replicate copies (mode.applyBytes bytes)).flatten ++ part ∧
      copies ≤ tape.interruptionsAhead script ∧
      (delivery = .done →
        copies = tape.interruptionsAhead script ∧ part = mode.applyBytes bytes) := by
  obtain ⟨delivery, after, copies, part, hagain, hends, hpart, htaken, hcopies, hdone⟩ :=
    Tape.deliverAgain_spec hanswers (mode.applyBytes bytes) rfl hsettles
  refine ⟨delivery, after, copies, part, ?_, hpart, htaken, hcopies, hdone⟩
  rw [deliverAll, if_neg hbytes, Sink.deliverUninterrupted, hagain, Option.getD_some,
    Sink.settle_of_ne_endless hends]

/-- If every flush is interrupted, delivering all bytes goes on for ever, and each round of it leaves
one more copy of the rendered bytes in the sink. -/
theorem deliverAll_endless (mode : Mode) {bytes : List UInt8} (hbytes : bytes ≠ [])
    {script : Script} {tape : Tape}
    (h : ∀ rounds, (Tape.deliver script (mode.applyBytes bytes)
      (tape.afterRounds script (.deliver (mode.applyBytes bytes)) rounds)).1.IsInterrupted) :
    let outcome := deliverAll mode bytes (.scripted script tape)
    outcome.1 = .endless (.deliver (mode.applyBytes bytes)) ∧
      ∀ rounds, (outcome.2.afterRounds rounds).taken =
        tape.taken ++ (List.replicate rounds (mode.applyBytes bytes)).flatten := by
  intro outcome
  have hnone := Tape.deliverAgain_eq_none_iff.2 h
  have houtcome : outcome = (.endless (.deliver (mode.applyBytes bytes)),
      .hung script tape (.deliver (mode.applyBytes bytes))) := by
    show deliverAll mode bytes (.scripted script tape) = _
    rw [deliverAll, if_neg hbytes, Sink.deliverUninterrupted, hnone, Option.getD_none]
    rfl
  rw [houtcome]
  exact ⟨rfl, Tape.taken_afterRounds hnone⟩

/-- Takes one byte at a time, and interrupts the first flush once. -/
def interruptingFlush : Script where
  write _ := ⟨0, .take 1⟩
  flush turn := if turn = 0 then ⟨["again".toList], .done⟩ else Script.flushing

theorem interruptingFlush_answersWrites : interruptingFlush.AnswersWrites :=
  fun _ => WriteAnswer.noConfusion

theorem interruptingFlush_settles (message : List Char) :
    (interruptingFlush.flush Tape.blank.flushTurns).answer ≠ .never message :=
  FlushAnswer.noConfusion

theorem deliverAll_copies_interruptingFlush :
    ([111, 107] : List UInt8) ≠ [] ∧ interruptingFlush.AnswersWrites ∧
      (∀ message, (interruptingFlush.flush Tape.blank.flushTurns).answer ≠ .never message) ∧
      ∃ delivery after copies part,
        deliverAll .off [111, 107] (.scripted interruptingFlush .blank) =
          (delivery, .scripted interruptingFlush after) ∧
        part <+: Mode.off.applyBytes [111, 107] ∧
        after.taken = Tape.blank.taken ++
          (List.replicate copies (Mode.off.applyBytes [111, 107])).flatten ++ part ∧
        copies ≤ Tape.blank.interruptionsAhead interruptingFlush ∧
        (delivery = .done → copies = Tape.blank.interruptionsAhead interruptingFlush ∧
          part = Mode.off.applyBytes [111, 107]) :=
  ⟨by decide, interruptingFlush_answersWrites, interruptingFlush_settles,
    deliverAll_copies .off (by decide) interruptingFlush_answersWrites .blank
      interruptingFlush_settles⟩

/-- The interrupted flush costs a copy: the bytes reach the sink twice, though the delivery
succeeds. It is the same if the flush fails for another reason and the caller repeats the write that
failed: it had delivered everything. -/
theorem deliverAll_twice :
    let ok : List UInt8 := [111, 107]
    let all := deliverAll .off ok (.scripted interruptingFlush .blank)
    let blocking := Script.flushingWith (.fail .wouldBlock "again".toList)
    let first := deliver .off ok (.scripted blocking .blank)
    all.1 = .done ∧ all.2.taken = ok ++ ok ∧
      first.1 = .failed (.final .wouldBlock "again".toList) ∧
      (deliver .off ok first.2).2.taken = ok ++ ok ∧
      ¬ ok ++ ok <+: Mode.off.applyBytes ok := by
  intro ok all blocking first
  let tape := (Tape.deliver interruptingFlush ok .blank).2
  have hinterrupted : (Tape.deliver interruptingFlush ok .blank).1.IsInterrupted :=
    ⟨"again".toList, by decide +kernel⟩
  have hdone : (tape.deliver interruptingFlush ok).1 = .done := by decide +kernel
  have hagain : Tape.deliverAgain interruptingFlush ok .blank =
      some (tape.deliver interruptingFlush ok) := by
    rw [Tape.deliverAgain_of_isInterrupted hinterrupted]
    apply Tape.deliverAgain_of_not_isInterrupted
    rw [hdone]
    exact Delivery.not_isInterrupted_done
  have hall : all = Sink.settle interruptingFlush (tape.deliver interruptingFlush ok) := by
    have hpassed : Mode.off.applyBytes ok = ok := by decide +kernel
    show deliverAll .off ok (.scripted interruptingFlush .blank) = _
    rw [deliverAll, if_neg (List.cons_ne_nil _ _), hpassed, Sink.deliverUninterrupted, hagain,
      Option.getD_some]
  rw [hall]
  decide +kernel

end TerminalDecoration.Filter
