/-
# Delivery on a scripted sink

Writing a buffer offers it in pieces until the sink has taken all of it or fails; the flush comes
only after the last piece. This module says what a delivery adds to the tape: a front of the buffer,
and all of it if the writing succeeds. An interrupted flush comes after the whole buffer was taken,
so whoever delivers the buffer again after it writes the buffer once more; and if every delivery
meets an interruption, that goes on for ever.
-/

import Mathlib.Order.Basic
import TerminalDecoration.Proofs.Sink.Turns

namespace TerminalDecoration

namespace Tape

variable {script : Script} {tape : Tape}

/-- How many interrupted flushes lie ahead before the next that is not, in the turn that comes. -/
def interruptionsAhead (script : Script) (tape : Tape) : Nat :=
  (script.flush tape.flushTurns).interruptions.length - tape.flushInterruptions

theorem SameFlushes.interruptionsAhead_eq {after : Tape} (h : SameFlushes tape after) :
    after.interruptionsAhead script = tape.interruptionsAhead script := by
  rw [interruptionsAhead, interruptionsAhead, h.flushTurns_eq, h.flushInterruptions_eq]

/-! ## Writing -/

/-- Writing that succeeds takes the whole buffer, whatever other turns of the script are like. -/
theorem taken_writeAll_of_done {bytes : List UInt8} (h : (writeAll script bytes tape).1 = .done) :
    (writeAll script bytes tape).2.taken = tape.taken ++ bytes := by
  fun_induction writeAll script bytes tape with
  | case1 tape => exact (List.append_nil _).symm
  | case2 b bytes tape turn after _ => rfl
  | case4 b bytes tape turn after count _ ih =>
      have hpart : (after (b :: bytes.take count)).taken = tape.taken ++ b :: bytes.take count := rfl
      rw [ih h, hpart, List.append_assoc, List.cons_append, List.take_append_drop]
  | case3 | case5 | case6 | case7 => cases h

/-- An interrupted write is tried again, so it is never the end of the writing. -/
theorem not_isInterrupted_writeAll (script : Script) (bytes : List UInt8) (tape : Tape) :
    ¬ (writeAll script bytes tape).1.IsInterrupted := by
  fun_induction writeAll script bytes tape with
  | case4 _ _ _ _ _ _ _ ih => exact ih
  | case1 | case2 | case3 | case5 | case6 | case7 => simp [Failure.nothingTaken]

theorem writeAll_ne_endless (hanswers : script.AnswersWrites) (bytes : List UInt8) (tape : Tape)
    (loop : Loop) : (writeAll script bytes tape).1 ≠ .endless loop := by
  fun_induction writeAll script bytes tape with
  | case4 _ _ _ _ _ _ _ ih => exact ih
  | case7 _ _ tape _ hanswer => exact absurd hanswer (hanswers tape.writeTurns)
  | case1 | case2 | case3 | case5 | case6 => exact Delivery.noConfusion

/-! ## Flushing -/

/-- Between the two tapes there was one call, a flush. -/
structure OneFlush (tape after : Tape) : Prop where
  taken_eq : after.taken = tape.taken
  writeTurns_eq : after.writeTurns = tape.writeTurns
  calls_eq : after.calls = tape.calls ++ [.flush]

/-- However a flush ends, it is one call; it takes no bytes and uses up no turn of writing. -/
theorem oneFlush_flush (script : Script) (tape : Tape) : OneFlush tape (flush script tape).2 := by
  rw [flush]
  dsimp only
  split
  · exact ⟨rfl, rfl, rfl⟩
  · split <;> exact ⟨rfl, rfl, rfl⟩

/-- How a flush ends depends on the flushes before it. -/
theorem SameFlushes.flush_fst_eq {after : Tape} (h : SameFlushes tape after) :
    (flush script after).1 = (flush script tape).1 := by
  rw [flush, flush, h.flushTurns_eq, h.flushInterruptions_eq]
  dsimp only
  split
  · rfl
  · split <;> rfl

theorem flush_ne_endless (script : Script) (tape : Tape) (loop : Loop) :
    (flush script tape).1 ≠ .endless loop := by
  rw [flush]
  dsimp only
  split
  · exact Delivery.noConfusion
  · split <;> exact Delivery.noConfusion

/-- A flush that meets an interruption uses it up. -/
theorem flush_of_interruptionsAhead_succ {ahead : Nat}
    (h : tape.interruptionsAhead script = ahead + 1) :
    (flush script tape).1.IsInterrupted ∧ (flush script tape).2.taken = tape.taken ∧
      (flush script tape).2.flushTurns = tape.flushTurns ∧
      (flush script tape).2.interruptionsAhead script = ahead := by
  rw [interruptionsAhead] at h
  have hlt : tape.flushInterruptions < (script.flush tape.flushTurns).interruptions.length := by
    omega
  simp only [flush, List.getElem?_eq_getElem hlt, interruptionsAhead]
  exact ⟨⟨_, rfl⟩, trivial, trivial, by omega⟩

/-- A flush that meets no interruption comes to an end, unless it never will. -/
theorem flush_of_interruptionsAhead_zero (h : tape.interruptionsAhead script = 0)
    (hsettles : ∀ message, (script.flush tape.flushTurns).answer ≠ .never message) :
    ¬ (flush script tape).1.IsInterrupted ∧ (flush script tape).2.taken = tape.taken := by
  have hle : (script.flush tape.flushTurns).interruptions.length ≤ tape.flushInterruptions := by
    rw [interruptionsAhead] at h
    omega
  simp only [flush, List.getElem?_eq_none hle]
  cases hanswer : (script.flush tape.flushTurns).answer with
  | done => simp
  | fail kind message => simp
  | crash message => simp
  | never message => exact absurd hanswer (hsettles message)

/-! ## Delivering once and again -/

variable {bytes : List UInt8}

theorem deliver_of_writeAll_eq_done (h : (writeAll script bytes tape).1 = .done) :
    deliver script bytes tape = flush script (writeAll script bytes tape).2 := by
  rw [deliver]
  cases hwrite : writeAll script bytes tape with
  | mk delivery after =>
      rw [hwrite] at h
      cases h
      rfl

theorem deliver_of_writeAll_ne_done (h : (writeAll script bytes tape).1 ≠ .done) :
    deliver script bytes tape = writeAll script bytes tape := by
  rw [deliver]
  split
  · rename_i hwrite
    rw [hwrite] at h
    exact absurd rfl h
  · rfl

/-- A sink has taken the whole buffer when the delivery succeeds, and also when it is interrupted:
that is the flush. -/
theorem taken_deliver (h : (deliver script bytes tape).1 = .done ∨
      (deliver script bytes tape).1.IsInterrupted) :
    (deliver script bytes tape).2.taken = tape.taken ++ bytes := by
  by_cases hwritten : (writeAll script bytes tape).1 = .done
  · rw [deliver_of_writeAll_eq_done hwritten, (oneFlush_flush _ _).taken_eq,
      taken_writeAll_of_done hwritten]
  · rw [deliver_of_writeAll_ne_done hwritten] at h
    rcases h with hdone | hinterrupted
    · exact absurd hdone hwritten
    · exact absurd hinterrupted (not_isInterrupted_writeAll script bytes tape)

/-- A delivery either comes to an end, with a front of the buffer taken, and all of it if the
delivery succeeds; or its flush meets an interruption, after the whole buffer was taken. -/
theorem deliver_spec (hanswers : script.AnswersWrites) (bytes : List UInt8) (tape : Tape)
    (hsettles : ∀ message, (script.flush tape.flushTurns).answer ≠ .never message) :
    (¬ (deliver script bytes tape).1.IsInterrupted ∧ ∃ part, part <+: bytes ∧
        (deliver script bytes tape).2.taken = tape.taken ++ part ∧
        ((deliver script bytes tape).1 = .done →
          tape.interruptionsAhead script = 0 ∧ part = bytes)) ∨
      ((deliver script bytes tape).1.IsInterrupted ∧
        (deliver script bytes tape).2.taken = tape.taken ++ bytes ∧
        (deliver script bytes tape).2.flushTurns = tape.flushTurns ∧
        (deliver script bytes tape).2.interruptionsAhead script + 1 =
          tape.interruptionsAhead script) := by
  obtain ⟨parts, hwriting⟩ := exists_isWriting hanswers bytes tape
  have hsame := hwriting.sameFlushes
  by_cases hwritten : (writeAll script bytes tape).1 = .done
  · have htaken := taken_writeAll_of_done hwritten
    rw [deliver_of_writeAll_eq_done hwritten, ← htaken, ← hsame.flushTurns_eq,
      ← hsame.interruptionsAhead_eq]
    rw [← hsame.flushTurns_eq] at hsettles
    cases hahead : interruptionsAhead script (writeAll script bytes tape).2 with
    | zero =>
        obtain ⟨hend, hkept⟩ := flush_of_interruptionsAhead_zero hahead hsettles
        exact .inl ⟨hend, bytes, List.prefix_rfl, hkept.trans htaken, fun _ => ⟨rfl, rfl⟩⟩
    | succ ahead =>
        obtain ⟨hinterrupted, hkept, hturns, hleft⟩ := flush_of_interruptionsAhead_succ hahead
        exact .inr ⟨hinterrupted, hkept, hturns, by rw [hleft]⟩
  · rw [deliver_of_writeAll_ne_done hwritten]
    exact .inl ⟨not_isInterrupted_writeAll script bytes tape, parts.flatten,
      hwriting.areParts.flatten_isPrefix, hwriting.taken_eq, fun h => absurd h hwritten⟩

/-- Where every write is answered, every delivery comes to an end. -/
theorem deliver_ne_endless (hanswers : script.AnswersWrites) (bytes : List UInt8) (tape : Tape)
    (loop : Loop) : (deliver script bytes tape).1 ≠ .endless loop := by
  by_cases hwritten : (writeAll script bytes tape).1 = .done
  · rw [deliver_of_writeAll_eq_done hwritten]
    exact flush_ne_endless script _ loop
  · rw [deliver_of_writeAll_ne_done hwritten]
    exact writeAll_ne_endless hanswers bytes tape loop

theorem deliverAgain_of_isInterrupted (h : (deliver script bytes tape).1.IsInterrupted) :
    deliverAgain script bytes tape = deliverAgain script bytes (deliver script bytes tape).2 := by
  obtain ⟨message, hmessage⟩ := h
  rw [deliverAgain]
  split
  · rename_i hdeliver
    rw [hdeliver]
  · rename_i hother
    exact (hother message _ (Prod.ext hmessage rfl)).elim

theorem deliverAgain_of_not_isInterrupted (h : ¬ (deliver script bytes tape).1.IsInterrupted) :
    deliverAgain script bytes tape = some (deliver script bytes tape) := by
  rw [deliverAgain]
  split
  · rename_i message _ hdeliver
    exact absurd ⟨message, congrArg Prod.fst hdeliver⟩ h
  · rfl

/-- Delivering a buffer again after each interrupted flush ends when the interruptions do. Each of
them has cost one copy of the buffer; then comes a front of it, which is all of it if the delivery
succeeds. -/
theorem deliverAgain_spec (hanswers : script.AnswersWrites) (bytes : List UInt8) {tape : Tape}
    {again : Nat} (hahead : tape.interruptionsAhead script = again)
    (hsettles : ∀ message, (script.flush tape.flushTurns).answer ≠ .never message) :
    ∃ delivery after copies part,
      deliverAgain script bytes tape = some (delivery, after) ∧
      (∀ loop, delivery ≠ .endless loop) ∧ part <+: bytes ∧
      after.taken = tape.taken ++ (List.replicate copies bytes).flatten ++ part ∧
      copies ≤ again ∧ (delivery = .done → copies = again ∧ part = bytes) := by
  induction again using Nat.strongRecOn generalizing tape with
  | ind again ih =>
      obtain ⟨hend, part, hpart, htaken, hdone⟩ | ⟨hinterrupted, htaken, hturns, hleft⟩ :=
        deliver_spec hanswers bytes tape hsettles
      · refine ⟨(deliver script bytes tape).1, (deliver script bytes tape).2, 0, part,
          deliverAgain_of_not_isInterrupted hend, deliver_ne_endless hanswers bytes tape, hpart, ?_,
          Nat.zero_le _, fun h => ?_⟩
        · rw [htaken]
          simp
        · exact ⟨by rw [← hahead, (hdone h).1], (hdone h).2⟩
      · -- The turn of flushing is the same one, with an interruption less ahead.
        rw [← hturns] at hsettles
        obtain ⟨delivery, last, copies, part, hagain, hend, hpart, hlast, hcopies, hdone⟩ :=
          ih _ (by omega) rfl hsettles
        refine ⟨delivery, last, copies + 1, part, ?_, hend, hpart, ?_, by omega, fun h => ?_⟩
        · rw [deliverAgain_of_isInterrupted hinterrupted, hagain]
        · rw [hlast, htaken, List.replicate_succ, List.flatten_cons]
          simp
        · exact ⟨by rw [(hdone h).1, hleft, hahead], (hdone h).2⟩

/-! ## Rounds without end -/

theorem afterRounds_succ (script : Script) (loop : Loop) (rounds : Nat) (tape : Tape) :
    tape.afterRounds script loop (rounds + 1) =
      (tape.afterRound script loop).afterRounds script loop rounds := by
  induction rounds with
  | zero => rfl
  | succ rounds ih => exact congrArg (afterRound script · loop) ih

/-- If delivering again comes to an end, it does so after a number of rounds. -/
theorem exists_not_isInterrupted_of_deliverAgain (bytes : List UInt8) :
    ∀ tape outcome, deliverAgain script bytes tape = some outcome →
      ∃ rounds, ¬ (deliver script bytes
        (tape.afterRounds script (.deliver bytes) rounds)).1.IsInterrupted := by
  apply deliverAgain.partial_correctness
  intro again hagain tape outcome houtcome
  by_cases h : (deliver script bytes tape).1.IsInterrupted
  · obtain ⟨message, hmessage⟩ := h
    split at houtcome
    · rename_i after hdeliver
      obtain ⟨rounds, hend⟩ := hagain _ _ houtcome
      refine ⟨rounds + 1, ?_⟩
      rw [afterRounds_succ, afterRound, hdeliver]
      exact hend
    · rename_i hother
      exact (hother message _ (Prod.ext hmessage rfl)).elim
  · exact ⟨0, h⟩

theorem isInterrupted_of_deliverAgain_eq_none (h : deliverAgain script bytes tape = none) :
    (deliver script bytes tape).1.IsInterrupted := by
  by_contra hend
  rw [deliverAgain_of_not_isInterrupted hend] at h
  cases h

/-- Delivering a buffer again never comes to an end exactly if every round is interrupted. -/
theorem deliverAgain_eq_none_iff :
    deliverAgain script bytes tape = none ↔
      ∀ rounds, (deliver script bytes
        (tape.afterRounds script (.deliver bytes) rounds)).1.IsInterrupted := by
  constructor
  · intro hnone rounds
    have hinterrupted := isInterrupted_of_deliverAgain_eq_none hnone
    induction rounds generalizing tape with
    | zero => exact hinterrupted
    | succ rounds ih =>
        rw [deliverAgain_of_isInterrupted hinterrupted] at hnone
        rw [afterRounds_succ]
        exact ih hnone (isInterrupted_of_deliverAgain_eq_none hnone)
  · intro hall
    cases hagain : deliverAgain script bytes tape with
    | none => rfl
    | some outcome =>
        obtain ⟨rounds, hend⟩ := exists_not_isInterrupted_of_deliverAgain bytes tape outcome hagain
        exact absurd (hall rounds) hend

/-- Each round of it leaves one more copy of the buffer. -/
theorem taken_afterRounds (h : deliverAgain script bytes tape = none) (rounds : Nat) :
    (tape.afterRounds script (.deliver bytes) rounds).taken =
      tape.taken ++ (List.replicate rounds bytes).flatten := by
  induction rounds with
  | zero => exact (List.append_nil _).symm
  | succ rounds ih =>
      have hround := taken_deliver (.inr (deliverAgain_eq_none_iff.1 h rounds))
      rw [ih, List.append_assoc, ← List.flatten_concat, ← List.replicate_succ'] at hround
      exact hround

end Tape

namespace Sink

@[simp]
theorem settle_fst (script : Script) (outcome : Delivery × Tape) :
    (settle script outcome).1 = outcome.1 := by
  obtain ⟨delivery, tape⟩ := outcome
  cases delivery <;> rfl

theorem settle_of_ne_endless {script : Script} {outcome : Delivery × Tape}
    (h : ∀ loop, outcome.1 ≠ .endless loop) :
    settle script outcome = (outcome.1, .scripted script outcome.2) := by
  obtain ⟨delivery, tape⟩ := outcome
  cases delivery with
  | endless loop => exact absurd rfl (h loop)
  | done | failed | crashed => rfl

/-- A sink has taken the whole buffer when the delivery succeeds. -/
theorem taken_deliver_of_done {sink : Sink} {bytes : List UInt8}
    (h : (sink.deliver bytes).1 = .done) :
    (sink.deliver bytes).2.taken = sink.taken ++ bytes := by
  cases sink with
  | memory kept => rfl
  | scripted script tape =>
      rw [deliver, settle_fst] at h
      rw [deliver, settle_of_ne_endless (h ▸ fun _ => Delivery.noConfusion)]
      exact Tape.taken_deliver (.inl h)
  | hung => cases h

end Sink

end TerminalDecoration
