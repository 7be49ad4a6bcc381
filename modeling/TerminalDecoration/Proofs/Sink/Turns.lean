/-
# Writing in turns

Writing a buffer uses up turns of the sink. In each turn the sink is offered all that is left, again
after each interruption, and takes a front of it; a turn that takes nothing is a refusal and ends
the writing. So if every turn is answered, the parts that the turns take make up a front of the
buffer, and there are no more turns than bytes.
-/

import TerminalDecoration.Sink

namespace TerminalDecoration

/-- The delivery was interrupted, so it may be tried again. -/
def Delivery.IsInterrupted (delivery : Delivery) : Prop :=
  ∃ message, delivery = .failed (.interrupted message)

@[simp]
theorem Delivery.not_isInterrupted_done : ¬ done.IsInterrupted := by
  simp [IsInterrupted]

@[simp]
theorem Delivery.not_isInterrupted_failed_final (kind : FailureKind) (message : List Char) :
    ¬ (failed (.final kind message)).IsInterrupted := by
  simp [IsInterrupted]

@[simp]
theorem Delivery.not_isInterrupted_crashed (message : List Char) :
    ¬ (crashed message).IsInterrupted := by
  simp [IsInterrupted]

@[simp]
theorem Delivery.not_isInterrupted_endless (loop : Loop) : ¬ (endless loop).IsInterrupted := by
  simp [IsInterrupted]

/-- Every write is answered in the end. -/
def Script.AnswersWrites (script : Script) : Prop := ∀ turn, (script.write turn).answer ≠ .never

/-! ## The answer of a turn -/

namespace WriteAnswer

/-- What is taken of the bytes that are offered. -/
def part : WriteAnswer → List UInt8 → List UInt8
  | takeAll, bytes => bytes
  | take count, bytes => bytes.take count
  | fail _ _, _ => []
  | crash _, _ => []
  | never, _ => []

/-- How a delivery ends on this answer, if nothing is taken and it ends. -/
def refusal? : WriteAnswer → Option Delivery
  | takeAll => none
  | take 0 => some (.failed .nothingTaken)
  | take (_ + 1) => none
  | fail kind message => some (.failed (.final kind message))
  | crash message => some (.crashed message)
  | never => none

theorem part_isPrefix (answer : WriteAnswer) (bytes : List UInt8) :
    answer.part bytes <+: bytes := by
  cases answer with
  | takeAll => exact List.prefix_rfl
  | take count => exact List.take_prefix count bytes
  | fail | crash | never => exact List.nil_prefix

theorem part_append_drop (answer : WriteAnswer) (bytes : List UInt8) :
    answer.part bytes ++ bytes.drop (answer.part bytes).length = bytes :=
  List.prefix_iff_eq_append.1 (answer.part_isPrefix bytes)

theorem part_eq_nil {answer : WriteAnswer} {delivery : Delivery}
    (h : answer.refusal? = some delivery) (bytes : List UInt8) : answer.part bytes = [] := by
  match answer with
  | takeAll => cases h
  | take 0 => rfl
  | take (_ + 1) => cases h
  | fail _ _ => rfl
  | crash _ => rfl
  | never => rfl

theorem part_ne_nil {answer : WriteAnswer} (hanswers : answer ≠ .never)
    (h : answer.refusal? = none) {bytes : List UInt8} (hbytes : bytes ≠ []) :
    answer.part bytes ≠ [] := by
  match answer with
  | takeAll => exact hbytes
  | take 0 => cases h
  | take (count + 1) => simpa [part] using hbytes
  | fail _ _ => cases h
  | crash _ => cases h
  | never => exact absurd rfl hanswers

theorem ne_done_of_refusal {answer : WriteAnswer} {delivery : Delivery}
    (h : answer.refusal? = some delivery) : delivery ≠ .done := by
  match answer with
  | take 0 | fail _ _ | crash _ =>
      cases h
      exact Delivery.noConfusion
  | takeAll | take (_ + 1) | never => cases h

end WriteAnswer

/-! ## Parts of a buffer -/

/-- These are the parts of the buffer that the turns from number `first` on take. Each turn is
offered what the turns before it have left, and only the last one refuses it. -/
structure AreParts (script : Script) (first : Nat) (bytes : List UInt8)
    (parts : List (List UInt8)) : Prop where
  flatten_isPrefix : parts.flatten <+: bytes
  length_le : parts.length ≤ bytes.length
  part_eq : ∀ earlier part later, parts = earlier ++ part :: later →
    part = (script.write (first + earlier.length)).answer.part
      (bytes.drop earlier.flatten.length)
  refusal?_eq_none : ∀ earlier part later, parts = earlier ++ part :: later → later ≠ [] →
    (script.write (first + earlier.length)).answer.refusal? = none

namespace AreParts

variable {script : Script} {first : Nat} {bytes : List UInt8} {parts : List (List UInt8)}

theorem nil : AreParts script first bytes [] where
  flatten_isPrefix := List.nil_prefix
  length_le := Nat.zero_le _
  part_eq earlier part later h := absurd h (by simp)
  refusal?_eq_none earlier part later h := absurd h (by simp)

theorem cons (hanswers : (script.write first).answer ≠ .never) (hbytes : bytes ≠ [])
    (hmore : parts ≠ [] → (script.write first).answer.refusal? = none)
    (h : AreParts script (first + 1)
      (bytes.drop ((script.write first).answer.part bytes).length) parts) :
    AreParts script first bytes ((script.write first).answer.part bytes :: parts) where
  flatten_isPrefix := by
    have hfront := (List.prefix_append_right_inj ((script.write first).answer.part bytes)).2
      h.flatten_isPrefix
    rwa [WriteAnswer.part_append_drop] at hfront
  length_le := by
    have hpos := List.length_pos_iff.2 hbytes
    have hle := h.length_le
    rw [List.length_drop] at hle
    rw [List.length_cons]
    by_cases hparts : parts = []
    · rw [hparts]
      exact hpos
    · have htook := List.length_pos_iff.2 (WriteAnswer.part_ne_nil hanswers (hmore hparts) hbytes)
      omega
  part_eq earlier part later hsplit := by
    cases earlier with
    | nil =>
        cases hsplit
        rfl
    | cons part' earlier =>
        cases hsplit
        rw [h.part_eq earlier part later rfl, List.drop_drop, List.flatten_cons,
          List.length_append, List.length_cons, Nat.add_right_comm, Nat.add_assoc]
  refusal?_eq_none earlier part later hsplit hlater := by
    cases earlier with
    | nil =>
        cases hsplit
        exact hmore hlater
    | cons part' earlier =>
        cases hsplit
        rw [List.length_cons, Nat.add_comm earlier.length, ← Nat.add_assoc]
        exact h.refusal?_eq_none earlier part later rfl hlater

end AreParts

/-- The calls of the turns that take these parts: each offers all that is left, and again after each
interruption. -/
def offers (script : Script) : Nat → Nat → List (List UInt8) → List SinkCall
  | _, _, [] => []
  | turn, left, part :: parts =>
    List.replicate ((script.write turn).interruptions + 1) (.write left) ++
      offers script (turn + 1) (left - part.length) parts

namespace Tape

variable {script : Script} {tape after : Tape} {bytes : List UInt8} {parts : List (List UInt8)}
  {delivery : Delivery}

@[simp]
theorem taken_afterWriteTurn (tape : Tape) (interruptions offered : Nat) (bytes : List UInt8) :
    (tape.afterWriteTurn interruptions offered bytes).taken = tape.taken ++ bytes := rfl

/-- Nothing was flushed between the two tapes. -/
structure SameFlushes (tape after : Tape) : Prop where
  flushTurns_eq : after.flushTurns = tape.flushTurns
  flushInterruptions_eq : after.flushInterruptions = tape.flushInterruptions

/-! ## Writing a buffer -/

/-- Writing the bytes leads from the one tape to the other, and the sink takes these parts. -/
structure IsWriting (script : Script) (bytes : List UInt8) (parts : List (List UInt8))
    (tape : Tape) (delivery : Delivery) (after : Tape) : Prop where
  areParts : AreParts script tape.writeTurns bytes parts
  taken_eq : after.taken = tape.taken ++ parts.flatten
  writeTurns_eq : after.writeTurns = tape.writeTurns + parts.length
  calls_eq : after.calls = tape.calls ++ offers script tape.writeTurns bytes.length parts
  done_iff : delivery = .done ↔ parts.flatten = bytes
  refused : delivery ≠ .done → ∃ turn, after.writeTurns = turn + 1 ∧
    (script.write turn).answer.refusal? = some delivery
  sameFlushes : SameFlushes tape after

namespace IsWriting

theorem nil (tape : Tape) : IsWriting script [] [] tape .done tape where
  areParts := .nil
  taken_eq := (List.append_nil _).symm
  writeTurns_eq := rfl
  calls_eq := (List.append_nil _).symm
  done_iff := by simp
  refused h := absurd rfl h
  sameFlushes := ⟨rfl, rfl⟩

/-- The sink refuses what it is offered. -/
theorem refusal (hanswers : script.AnswersWrites) (hbytes : bytes ≠ [])
    (h : (script.write tape.writeTurns).answer.refusal? = some delivery) :
    IsWriting script bytes [[]] tape delivery
      (tape.afterWriteTurn (script.write tape.writeTurns).interruptions bytes.length []) where
  areParts := by
    have hpart := WriteAnswer.part_eq_nil h bytes
    rw [← hpart]
    exact .cons (hanswers _) hbytes (fun hparts => absurd rfl hparts) .nil
  taken_eq := rfl
  writeTurns_eq := rfl
  calls_eq := by simp [afterWriteTurn, offers]
  done_iff := by simp [WriteAnswer.ne_done_of_refusal h, hbytes.symm]
  refused _ := ⟨tape.writeTurns, rfl, h⟩
  sameFlushes := ⟨rfl, rfl⟩

/-- The sink takes a part, and the rest is written after it. -/
theorem part (hanswers : script.AnswersWrites) (hbytes : bytes ≠ [])
    (h : (script.write tape.writeTurns).answer.refusal? = none)
    (hrest : IsWriting script
      (bytes.drop ((script.write tape.writeTurns).answer.part bytes).length) parts
      (tape.afterWriteTurn (script.write tape.writeTurns).interruptions bytes.length
        ((script.write tape.writeTurns).answer.part bytes)) delivery after) :
    IsWriting script bytes ((script.write tape.writeTurns).answer.part bytes :: parts) tape
      delivery after where
  areParts := .cons (hanswers _) hbytes (fun _ => h) hrest.areParts
  taken_eq := by
    rw [hrest.taken_eq, taken_afterWriteTurn, List.append_assoc, List.flatten_cons]
  writeTurns_eq := by
    rw [hrest.writeTurns_eq, List.length_cons]
    show tape.writeTurns + 1 + parts.length = _
    omega
  calls_eq := by
    rw [hrest.calls_eq, offers, List.length_drop, ← List.append_assoc]
    rfl
  done_iff := by
    have hwhole := (script.write tape.writeTurns).answer.part_append_drop bytes
    rw [hrest.done_iff, List.flatten_cons]
    constructor
    · intro hparts
      rw [hparts, hwhole]
    · intro hparts
      exact List.append_cancel_left (hparts.trans hwhole.symm)
  refused := hrest.refused
  sameFlushes := ⟨hrest.sameFlushes.1, hrest.sameFlushes.2⟩

end IsWriting

/-- Writing is done in turns. -/
theorem exists_isWriting (hanswers : script.AnswersWrites) (bytes : List UInt8) (tape : Tape) :
    ∃ parts, IsWriting script bytes parts tape (writeAll script bytes tape).1
      (writeAll script bytes tape).2 := by
  fun_induction writeAll script bytes tape with
  | case1 tape => exact ⟨[], .nil tape⟩
  | case2 b bytes tape turn after hanswer =>
      have hpart : turn.answer.part (b :: bytes) = b :: bytes := by rw [hanswer, WriteAnswer.part]
      have hrefusal : turn.answer.refusal? = none := by rw [hanswer, WriteAnswer.refusal?]
      refine ⟨[turn.answer.part (b :: bytes)],
        .part hanswers (List.cons_ne_nil b bytes) hrefusal ?_⟩
      rw [hpart, List.drop_length]
      exact .nil _
  | case3 b bytes tape turn after hanswer =>
      have hrefusal : turn.answer.refusal? = some (.failed .nothingTaken) := by
        rw [hanswer, WriteAnswer.refusal?]
      exact ⟨_, .refusal hanswers (List.cons_ne_nil b bytes) hrefusal⟩
  | case4 b bytes tape turn after count hanswer ih =>
      obtain ⟨parts, hparts⟩ := ih
      have hpart : turn.answer.part (b :: bytes) = b :: bytes.take count := by
        rw [hanswer, WriteAnswer.part, List.take_succ_cons]
      have hrest : (b :: bytes).drop (b :: bytes.take count).length = bytes.drop count := by
        have hwhole : b :: bytes = b :: bytes.take count ++ bytes.drop count := by
          rw [List.cons_append, List.take_append_drop]
        rw [hwhole, List.drop_left]
      have hrefusal : turn.answer.refusal? = none := by rw [hanswer, WriteAnswer.refusal?]
      refine ⟨turn.answer.part (b :: bytes) :: parts,
        .part hanswers (List.cons_ne_nil b bytes) hrefusal ?_⟩
      rw [hpart, hrest]
      exact hparts
  | case5 b bytes tape turn after kind message hanswer =>
      have hrefusal : turn.answer.refusal? = some (.failed (.final kind message)) := by
        rw [hanswer, WriteAnswer.refusal?]
      exact ⟨_, .refusal hanswers (List.cons_ne_nil b bytes) hrefusal⟩
  | case6 b bytes tape turn after message hanswer =>
      have hrefusal : turn.answer.refusal? = some (.crashed message) := by
        rw [hanswer, WriteAnswer.refusal?]
      exact ⟨_, .refusal hanswers (List.cons_ne_nil b bytes) hrefusal⟩
  | case7 b bytes tape turn hanswer => exact absurd hanswer (hanswers tape.writeTurns)

end Tape

end TerminalDecoration
