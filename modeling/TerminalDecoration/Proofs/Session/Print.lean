/-
# Printing one line

Printing reads the name first, so a refused name leaves no trace: nothing reaches the sink, and the
cache keeps its styles in their order. An accepted name is used, and its line is delivered once,
whether or not the delivery succeeds. The console is the same afterwards in every case.
-/

import TerminalDecoration.Log.PlainTimes
import TerminalDecoration.Proofs.Session.Lookups
import TerminalDecoration.Proofs.Sink.Course

namespace TerminalDecoration.Session

open Text.Utf8 (encode)

/-! ## The outcomes of printing -/

section

variable [Log.TimeLibrary] {s : Session} {id : Handle} {console : Console} {sink : Sink}
  {name : List Char} (hconsole : s.consoles.get? id = some console)
  (hsink : s.sinks.get? console.sink = some sink) (hsound : s.cache.IsSound)

include hconsole hsink

/-- Printing in a session is printing on the console that is there. -/
theorem step_print (overwrite : Bool) (text : List Char) :
    let printed := console.print overwrite name text s.cache sink
    s.step (.print id overwrite name text) =
      ⟨{ s.apply (.sink console.sink printed.sink) with cache := printed.cache },
        .ofPrinting printed.result, printed.reports⟩ := by
  rw [step, effect, print, withObject_of_get? .console hconsole, withSink_of_get? hsink]
  rfl

include hsound

/-- The name is refused: the sink is put back as it was. -/
theorem step_print_of_refused {e : NameError} (hname : Style.ofName name = .error e)
    (overwrite : Bool) (text : List Char) :
    (s.step (.print id overwrite name text)).session = s.apply (.sink console.sink sink) ∧
      (s.step (.print id overwrite name text)).answer = .notPrinted (.name e) := by
  have hresult : (Style.lookup s.cache name).result = .error e := by
    rw [hsound.lookup_result, hname]
  rw [step_print hconsole hsink, Console.print, hresult]
  dsimp only
  rw [hsound.lookup_cache_of_refused hname]
  exact ⟨rfl, rfl⟩

/-- The name is accepted: its style is used and its line delivered. -/
theorem step_print_of_accepted {style : Style} (hname : Style.ofName name = .ok style)
    (overwrite : Bool) (text : List Char) :
    let delivered := sink.deliver (encode ((console.stencil style).line overwrite text))
    (s.step (.print id overwrite name text)).session =
        { s.apply (.sink console.sink delivered.2) with cache := s.cache.use name style } ∧
      (s.step (.print id overwrite name text)).answer = .ofPrinting (.ok delivered.1) := by
  intro delivered
  have hresult : (Style.lookup s.cache name).result = .ok style := by
    rw [hsound.lookup_result, hname]
  rw [step_print hconsole hsink, Console.print, hresult]
  dsimp only
  rw [hsound.lookup_cache_of_accepted hname]
  exact ⟨rfl, rfl⟩

omit [Log.TimeLibrary] hconsole hsink hsound in
/-- However a delivery ends, no name is blamed for it. -/
theorem ofPrinting_ok_ne_name (delivery : Delivery) (e : NameError) :
    Answer.ofPrinting (.ok delivery) ≠ .notPrinted (.name e) := by
  cases delivery <;> simp [Answer.ofPrinting]

/-- Printing blames the name exactly for what reading it does. -/
theorem answer_print_eq_name_iff (overwrite : Bool) (text : List Char) (e : NameError) :
    (s.step (.print id overwrite name text)).answer = .notPrinted (.name e) ↔
      Style.ofName name = .error e := by
  cases hname : Style.ofName name with
  | error e' =>
      rw [(step_print_of_refused hconsole hsink hsound hname overwrite text).2,
        Answer.notPrinted.injEq, Console.PrintError.name.injEq, Except.error.injEq]
  | ok style =>
      rw [(step_print_of_accepted hconsole hsink hsound hname overwrite text).2]
      exact iff_of_false (ofPrinting_ok_ne_name _ e) nofun

end

/-- To put a sink back as it is leaves all sinks as they are. -/
theorem get?_apply_sink_self {s : Session} {id : SinkId} {sink : Sink}
    (hsink : s.sinks.get? id = some sink) (other : SinkId) :
    (s.apply (.sink id sink)).sinks.get? other = s.sinks.get? other := by
  rw [get?_apply_sink]
  split
  · rename_i hother
    rw [hother, hsink]
  · rfl

/-- Printing fails or succeeds as a whole. In any session a console refuses to print exactly if the
name is refused, with the same error; then every sink is as it was before, and so is all else, the
cache with its order included. If the name is accepted, the sink gets one delivery, of the style
filled with the text in the layout of this moment, behind a rewind if it is to overwrite. If the sink
neither breaks down nor hangs, the answer tells how this delivery ended. Even if it failed, the name
is the one used last, with the others behind it in their order. Nothing else has changed. -/
theorem print_is_atomic_in_name [Log.TimeLibrary] (terminal : Terminal)
    (sinks : Table SinkId Sink) (history : List Command) {id : Handle} {console : Console}
    {sink : Sink}
    (hconsole : ((start terminal sinks).run history).consoles.get? id = some console)
    (hsink : ((start terminal sinks).run history).sinks.get? console.sink = some sink)
    (overwrite : Bool) (name text : List Char) :
    let s := (start terminal sinks).run history
    let step := s.step (.print id overwrite name text)
    (∀ e, step.answer = .notPrinted (.name e) ↔ Style.ofName name = .error e) ∧
    (∀ e, Style.ofName name = .error e →
      step.session = { s with sinks := step.session.sinks } ∧
      ∀ other, step.session.sinks.get? other = s.sinks.get? other) ∧
    (∀ style, Style.ofName name = .ok style →
      let filled := (Line.Stencil.ofStyle style console.palette console.layout).fill text
      let delivered :=
        sink.deliver (encode (if overwrite then Control.rewind ++ filled else filled))
      (sink.IsSteady →
        delivered.1 = .done ∧ step.answer = .done ∨
          ∃ failure, delivered.1 = .failed failure ∧ step.answer = .notPrinted (.sink failure)) ∧
      step.session = { s with sinks := step.session.sinks, cache := step.session.cache } ∧
      (∀ other, step.session.sinks.get? other =
        if other = console.sink then some delivered.2 else s.sinks.get? other) ∧
      step.session.cache.names =
        name :: (s.cache.names.filter fun other => other ≠ name).take 255) := by
  intro s step
  have hsound : s.cache.IsSound := isSound_cache_run_start terminal sinks history
  refine ⟨answer_print_eq_name_iff hconsole hsink hsound overwrite text, ?refused, ?accepted⟩
  case refused =>
    intro e hname
    have hstep : step.session = s.apply (.sink console.sink sink) :=
      (step_print_of_refused hconsole hsink hsound hname overwrite text).1
    rw [hstep]
    exact ⟨rfl, get?_apply_sink_self hsink⟩
  case accepted =>
    intro style hname filled delivered
    obtain ⟨hsession, hanswer⟩ := step_print_of_accepted hconsole hsink hsound hname overwrite text
    have hstep : step.session =
        { s.apply (.sink console.sink delivered.2) with cache := s.cache.use name style } :=
      hsession
    have htold : step.answer = .ofPrinting (.ok delivered.1) := hanswer
    refine ⟨fun hsteady => ?_, ?_, ?_, ?_⟩
    · obtain hdone | ⟨failure, hfailed⟩ := hsteady.done_or_failed
        (encode (if overwrite then Control.rewind ++ filled else filled))
      · have hdone' : delivered.1 = .done := hdone
        rw [htold, hdone']
        exact Or.inl ⟨rfl, rfl⟩
      · have hfailed' : delivered.1 = .failed failure := hfailed
        rw [htold, hfailed']
        exact Or.inr ⟨failure, rfl, rfl⟩
    · rw [hstep]
      rfl
    · intro other
      rw [hstep]
      exact get?_apply_sink s console.sink other delivered.2
    · rw [hstep]
      exact Style.Cache.names_use s.cache name style

section

open scoped Log.PlainTimes

/-- Takes seven bytes of its first line and fails then. -/
def breakingAfterSeven : Script where
  write turn := if turn = 0 then ⟨0, .take 7⟩ else ⟨0, .fail .brokenPipe "gone".toList⟩
  flush _ := Script.flushing

/-- A pipe breaks in the middle of a line. What it has taken is the front of the line in the style
that was asked for, which was looked up before another and still is the one used last. -/
theorem print_is_atomic_in_name_brokenLine :
    let sink := Sink.scripted breakingAfterSeven .blank
    let s := (start .forced (.ofList [(.named "x", sink)])).run
      [.openConsole "c" ⟨some (.named "x"), none, none, none, none⟩,
        .lookupAll ["red".toList, "blue".toList]]
    let step := s.step (.print "c" true "red".toList "hi".toList)
    sink.IsSteady ∧
      step.answer = .notPrinted (.sink (.final .brokenPipe "gone".toList)) ∧
      (step.session.sinks.get? (.named "x")).map Sink.taken =
        some (encode (Control.rewind ++ Control.escape :: "[3".toList)) ∧
      (step.session.sinks.get? (.named "x")).map Sink.calls = some [.write 15, .write 8] ∧
      step.session.cache.names = ["red".toList, "blue".toList] := by
  intro sink s step
  have hsteady : sink.IsSteady := by
    refine ⟨fun turn => ?_, fun turn message => ?_, fun turn message => FlushAnswer.noConfusion⟩ <;>
      rw [breakingAfterSeven] <;> dsimp only <;> split <;> exact WriteAnswer.noConfusion
  have hred : Style.ofName "red".toList = .ok ⟨"red".toList, [⟨none, [.foreground .red]⟩]⟩ := by
    decide +kernel
  have hconsole : s.consoles.get? "c" = some ⟨.named "x", 2, 0, ⟨false, false⟩, .ansi⟩ := rfl
  have hsink : s.sinks.get? (.named "x") = some sink := rfl
  have hprint := print_is_atomic_in_name _ _ _ hconsole hsink true "red".toList "hi".toList
  obtain ⟨hanswer, -, hsinks, hnames⟩ := hprint.2.2 _ hred
  let line := encode (Control.rewind ++ (Line.Stencil.ofStyle
    ⟨"red".toList, [⟨none, [.foreground .red]⟩]⟩ .ansi ⟨0, ⟨false, false⟩⟩).fill "hi".toList)
  have hbroken : (sink.deliver line).1 = .failed (.final .brokenPipe "gone".toList) ∧
      (sink.deliver line).2.taken =
        encode (Control.rewind ++ Control.escape :: "[3".toList) ∧
      (sink.deliver line).2.calls = [.write 15, .write 8] := by
    decide +kernel
  have hafter : step.session.sinks.get? (.named "x") = some (sink.deliver line).2 :=
    (hsinks _).trans (if_pos rfl)
  refine ⟨hsteady, ?_, ?_, ?_, hnames.trans (by decide +kernel)⟩
  · obtain ⟨hdone, -⟩ | ⟨failure, hfailed, hanswer⟩ := hanswer hsteady
    · cases hbroken.1.symm.trans hdone
    · cases hbroken.1.symm.trans hfailed
      exact hanswer
  · rw [hafter]
    exact congrArg some hbroken.2.1
  · rw [hafter]
    exact congrArg some hbroken.2.2

end

end TerminalDecoration.Session
