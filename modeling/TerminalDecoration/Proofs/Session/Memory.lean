/-
# Writing to a memory

A memory keeps the bytes that are written to it and nothing else, whichever way they come: to the
sink, to the memory itself, or through filters that are off. It does not matter where the bytes are
cut, even if that is inside a character or a token. A filter tells whether a chunk is a text and
encodes texts again, but a filter that is off encodes what it has decoded.
-/

import TerminalDecoration.Log.PlainTimes
import TerminalDecoration.Proofs.Session.Run
import TerminalDecoration.Proofs.Text.Decoding

namespace TerminalDecoration

open Text.Utf8 (IsReadAs decodeLossy encode)

/-- What passes a filter that is off is what was written, whether it is a text or not. -/
theorem Filter.Mode.applyBytes_off (bytes : List UInt8) : off.applyBytes bytes = bytes := by
  rw [applyBytes]
  cases htext : Text.Utf8.decode? bytes with
  | none => rfl
  | some s => exact (Text.Utf8.decode?_eq_some_iff.1 htext).symm

namespace Session

/-! ## Writes -/

/-- A way to write to a memory. -/
inductive Way where
  /-- To the sink. -/
  | sink
  /-- To the memory itself. -/
  | memory
  /-- Through a filter. -/
  | filter (id : Handle)
  deriving DecidableEq, Repr

/-- A chunk of bytes and the way it is written. -/
structure Write where
  way : Way
  chunk : List UInt8
  deriving DecidableEq, Repr

namespace Write

/-- The command that writes the chunk. -/
def command (sink : SinkId) (write : Write) : Command :=
  match write.way with
  | .sink => .write sink write.chunk
  | .memory => .appendMemory sink write.chunk
  | .filter id => .writeFiltered id write.chunk

/-- The answer that all of the chunk is written. Only the sink itself does not say how much it is. -/
def success (write : Write) : Answer :=
  match write.way with
  | .sink => .done
  | .memory | .filter _ => .accepted write.chunk.length

theorem isEndless_success (write : Write) : write.success.isEndless = false := by
  rw [success]
  split <;> rfl

end Write

/-- The way leads to the sink and changes nothing: the filter on it, if there is one, is off. -/
def IsOpen (s : Session) (sink : SinkId) : Way → Prop
  | .filter id => s.filters.find? id = some ⟨sink, .off⟩
  | _ => True

section

variable [Log.TimeLibrary]

/-- The answers in the course of a run. -/
def answersTo (s : Session) (commands : List Command) : List Answer :=
  (s.trace commands).map fun entry => (entry.1.step entry.2).answer

variable {s : Session} {sink : SinkId} {kept : List UInt8}

/-- A chunk comes behind what the memory keeps, whichever way it is written. -/
theorem effect_write (hsink : s.sinks.get? sink = some (.memory kept)) {write : Write}
    (hopen : s.IsOpen sink write.way) :
    s.effect (write.command sink) =
      { answer := write.success, changes := [.sink sink (.memory (kept ++ write.chunk))] } := by
  obtain ⟨way, chunk⟩ := write
  cases way with
  | sink =>
      show s.effect (.write sink chunk) = _
      rw [effect, deliverTo_of_get? hsink]
      rfl
  | memory =>
      show s.effect (.appendMemory sink chunk) = _
      rw [effect, onMemory, withSink_of_get? hsink]
      rfl
  | filter id =>
      have hcell : s.filters.find? id = some ⟨sink, .off⟩ := hopen
      show s.effect (.writeFiltered id chunk) = _
      rw [effect, withFilter_of_find? hcell, deliverTo_of_get? hsink, Filter.deliver,
        Filter.Mode.applyBytes_off]
      rfl

theorem step_write (hsink : s.sinks.get? sink = some (.memory kept)) {write : Write}
    (hopen : s.IsOpen sink write.way) :
    s.step (write.command sink) =
      ⟨s.apply (.sink sink (.memory (kept ++ write.chunk))), write.success, []⟩ := by
  rw [step, effect_write hsink hopen]
  rfl

/-- The chunks come one behind the other, each is answered by success, and no other sink is
touched. -/
theorem run_writes (hsink : s.sinks.get? sink = some (.memory kept)) {writes : List Write}
    (hopen : ∀ write ∈ writes, s.IsOpen sink write.way) :
    (∀ other, (s.run (writes.map (Write.command sink))).sinks.get? other =
      if other = sink then some (.memory (kept ++ (writes.map Write.chunk).flatten))
      else s.sinks.get? other) ∧
    s.answersTo (writes.map (Write.command sink)) = writes.map Write.success := by
  induction writes generalizing s kept with
  | nil =>
      refine ⟨fun other => ?_, rfl⟩
      by_cases hother : other = sink
      · have hnothing : kept ++ (([] : List Write).map Write.chunk).flatten = kept :=
          List.append_nil kept
        rw [if_pos hother, hother, hnothing]
        exact hsink
      · rw [if_neg hother]
        rfl
  | cons write writes ih =>
      rw [List.forall_mem_cons] at hopen
      have hstep := step_write hsink hopen.1
      let next := s.apply (.sink sink (.memory (kept ++ write.chunk)))
      have hnext : next.sinks.get? sink = some (.memory (kept ++ write.chunk)) :=
        (get?_apply_sink ..).trans (if_pos rfl)
      have hends : (s.step (write.command sink)).answer.isEndless = false := by
        rw [hstep]
        exact write.isEndless_success
      -- The filters of the next session are the same, so all ways are still open.
      obtain ⟨hsinks, hanswers⟩ := ih (s := next) hnext hopen.2
      constructor
      · intro other
        rw [List.map_cons, run_cons_of_ends _ hends, hstep]
        refine (hsinks other).trans ?_
        by_cases hother : other = sink
        · rw [if_pos hother, if_pos hother, List.map_cons, List.flatten_cons, List.append_assoc]
        · rw [if_neg hother, if_neg hother]
          exact (get?_apply_sink ..).trans (if_neg hother)
      · rw [List.map_cons, answersTo, trace_cons_of_ends _ hends, List.map_cons, hstep]
        exact congrArg _ hanswers

/-! ## What a memory shows -/

theorem answer_showMemory (hsink : s.sinks.get? sink = some (.memory kept)) :
    (s.step (.showMemory sink)).answer = .text (decodeLossy kept) := by
  rw [step, effect, onMemory, withSink_of_get? hsink]

theorem step_takeMemory (hsink : s.sinks.get? sink = some (.memory kept)) :
    s.step (.takeMemory sink) =
      ⟨s.apply (.sink sink (.memory [])), .taken (decodeLossy kept) true, []⟩ := by
  rw [step, effect, onMemory, withSink_of_get? hsink]
  rfl

/-- A memory keeps what is written. However bytes are cut into chunks, and whichever way each chunk
is written, they come behind what the memory has kept, every write reports the whole chunk, and no
other sink is touched. The memory shows all its bytes as they are read, which is the text itself if
they are the bytes of a text, and gives the same when it is emptied. -/
theorem memory_keeps_what_is_written (hsink : s.sinks.get? sink = some (.memory kept))
    {writes : List Write} (hopen : ∀ write ∈ writes, s.IsOpen sink write.way)
    {bytes : List UInt8} (hcut : (writes.map Write.chunk).flatten = bytes) :
    let after := s.run (writes.map (Write.command sink))
    (∀ other, after.sinks.get? other =
      if other = sink then some (.memory (kept ++ bytes)) else s.sinks.get? other) ∧
    s.answersTo (writes.map (Write.command sink)) = writes.map Write.success ∧
    ∃ contents, (∀ text, IsReadAs (kept ++ bytes) text ↔ text = contents) ∧
      (∀ text, kept ++ bytes = encode text → text = contents) ∧
      (after.step (.showMemory sink)).answer = .text contents ∧
      (after.step (.takeMemory sink)).answer = .taken contents true ∧
      (after.step (.takeMemory sink)).session.sinks.get? sink = some (.memory []) := by
  intro after
  obtain ⟨hsinks, hanswers⟩ := run_writes hsink hopen
  rw [hcut] at hsinks
  have hafter : after.sinks.get? sink = some (.memory (kept ++ bytes)) :=
    (hsinks sink).trans (if_pos rfl)
  have htake := step_takeMemory hafter
  refine ⟨hsinks, hanswers, decodeLossy (kept ++ bytes), fun _ => Text.Utf8.isReadAs_iff, ?_,
    answer_showMemory hafter, ?_, ?_⟩
  · intro text htext
    rw [htext, Text.Utf8.decodeLossy_encode]
  · rw [htake]
  · rw [htake]
    exact (get?_apply_sink ..).trans (if_pos rfl)

end

section

open scoped Log.PlainTimes

/-- A text is written three ways and cut inside a token and inside a character. The first chunk is a
text to the filter, and the one with the broken character is not. -/
theorem memory_keeps_what_is_written_threeWays :
    let text := "a#{red}é".toList
    let writes : List Write := [⟨.filter "p", encode "a#\x7bre".toList⟩,
      ⟨.filter "p", [0x64, 0x7D, 0xC3]⟩, ⟨.memory, []⟩, ⟨.sink, [0xA9]⟩]
    let s := (start .forced (.ofList [(.named "x", .memory [])])).run
      [.requestFilter "r" (.named "x") "p"]
    let after := s.run (writes.map (Write.command (.named "x")))
    (writes.map Write.chunk).flatten = encode text ∧
      s.answersTo (writes.map (Write.command (.named "x"))) =
        [.accepted 5, .accepted 3, .accepted 0, .done] ∧
      (after.step (.showMemory (.named "x"))).answer = .text text ∧
      (after.step (.takeMemory (.named "x"))).answer = .taken text true := by
  intro text writes s after
  have hsink : s.sinks.get? (.named "x") = some (.memory []) := rfl
  have hfilter : s.IsOpen (.named "x") (.filter "p") := rfl
  have hopen : ∀ write ∈ writes, s.IsOpen (.named "x") write.way :=
    List.forall_mem_cons.2 ⟨hfilter, List.forall_mem_cons.2 ⟨hfilter,
      List.forall_mem_cons.2 ⟨trivial, List.forall_mem_singleton.2 trivial⟩⟩⟩
  have hcut : (writes.map Write.chunk).flatten = encode text := by
    decide +kernel
  obtain ⟨-, hanswers, contents, -, htext, hshown, htaken, -⟩ :=
    memory_keeps_what_is_written hsink hopen hcut
  rw [← htext text rfl] at hshown htaken
  exact ⟨hcut, hanswers.trans rfl, hshown, htaken⟩

end

end Session

end TerminalDecoration
