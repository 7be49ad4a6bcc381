/-
# Sinks do not interfere

What a sink receives depends only on the commands about it and the objects bound to it. All other
commands may be left out of a run: those about other sinks, whether they succeed, fail or break a
sink down, and those that only look styles up. The session of the shorter run covers that of the
whole run for this sink at each moment. A command about another sink changes nothing that belongs to
this one; and a command about this one finds the same in both sessions and makes the same changes,
although the sessions differ in what they share, in the cache above all.
-/

import TerminalDecoration.Log.PlainTimes
import TerminalDecoration.Proofs.Session.Agreement
import TerminalDecoration.Proofs.Session.Coverage
import TerminalDecoration.Proofs.Session.Lookups

namespace TerminalDecoration.Session

/-- The command is about no single sink, and it looks no style up. -/
def isNeutral : Command → Bool
  | .askIndentStep | .compareSinks .. | .showRegistry _ | .compareFilters .. | .addGuarded _ => true
  | _ => false

theorem subject_of_isNeutral {command : Command} (h : isNeutral command = true) :
    command.subject = .nothing := by
  cases command with
  | askIndentStep | compareSinks | showRegistry | compareFilters | addGuarded => rfl
  | _ => cases h

/-- The command is kept when all is left out that has no part in what the sink receives. -/
def isKept (sink : SinkId) (s : Session) (command : Command) : Bool :=
  s.target command = some sink || isNeutral command

section

variable [Log.TimeLibrary]

/-- The commands that a run carries out, without those about other sinks, without mere look-ups, and
without those on objects that are not there. -/
def commandsFor (sink : SinkId) (s : Session) (commands : List Command) : List Command :=
  ((s.trace commands).filter fun entry => isKept sink entry.1 entry.2).map Prod.snd

variable {s s' : Session} {a : SinkId} {command : Command}

/-! ## Commands about the sink -/

namespace IsCoveredBy

variable (h : s.IsCoveredBy a s')

include h

omit [Log.TimeLibrary] in
/-- A command about the sink finds the same in both sessions. -/
theorem findsSame (htarget : s.target command = some a) : s.FindsSame command s' := by
  rw [target] at htarget
  rw [FindsSame]
  split <;> rename_i hsubject <;> rw [hsubject] at htarget <;> dsimp only at htarget
  · trivial
  · cases htarget
    exact h.sink_eq
  · obtain ⟨object, hobject, hsink⟩ := Option.map_eq_some_iff.1 htarget
    refine ⟨?_, ?_⟩
    · rw [hobject]
      exact h.objects _ _ _ hobject hsink
    · intro object' hobject'
      cases hobject.symm.trans hobject'
      rw [hsink]
      exact h.sink_eq
  · obtain ⟨cell, hcell, hsink⟩ := Option.map_eq_some_iff.1 htarget
    refine ⟨?_, ?_⟩
    · rw [hcell]
      exact h.filters.find?_eq hcell hsink
    · intro cell' hcell'
      cases hcell.symm.trans hcell'
      rw [hsink]
      exact h.sink_eq

omit [Log.TimeLibrary] in
theorem readsSame (hsound : s.cache.IsSound) (hsound' : s'.cache.IsSound)
    (hkept : isKept a s command = true) : s.ReadsSame command s' where
  terminal_eq := h.terminal_eq
  lookup_eq := lookup_eq_of_isSound hsound hsound'
  finds := by
    rcases Bool.or_eq_true_iff.1 hkept with htarget | hneutral
    · exact h.findsSame (of_decide_eq_true htarget)
    · rw [FindsSame, subject_of_isNeutral hneutral]
      trivial

/-- A command that is kept does the same to the sink in both sessions, and comes to an end in both
or in neither. -/
theorem step_of_isKept (hsound : s.cache.IsSound) (hsound' : s'.cache.IsSound)
    (hkept : isKept a s command = true) :
    (s.step command).session.IsCoveredBy a (s'.step command).session ∧
      (s'.step command).answer.isEndless = (s.step command).answer.isEndless := by
  have hagrees := agreesWith_effect (h.readsSame hsound hsound' hkept)
  refine ⟨?_, hagrees.isEndless_eq⟩
  rcases Bool.or_eq_true_iff.1 hkept with htarget | hneutral
  · exact h.step (of_decide_eq_true htarget) hagrees.changes_eq
  · exact h.step_of_nothing (subject_of_isNeutral hneutral)

/-- A command that is left out takes nothing away. -/
theorem step_of_not_isKept (hkept : isKept a s command = false) :
    (s.step command).session.IsCoveredBy a s' :=
  h.step_left fun htarget =>
    of_decide_eq_false (Bool.or_eq_false_iff.1 hkept).1 htarget

end IsCoveredBy

/-! ## Whole runs -/

theorem commandsFor_cons_of_ends (h : (s.step command).answer.isEndless = false)
    (commands : List Command) :
    commandsFor a s (command :: commands) =
      (if isKept a s command then [command] else []) ++
        commandsFor a (s.step command).session commands := by
  rw [commandsFor, trace_cons_of_ends commands h, List.filter_cons]
  cases isKept a s command <;> rfl

theorem commandsFor_cons_of_isEndless (h : (s.step command).answer.isEndless = true)
    (commands : List Command) :
    commandsFor a s (command :: commands) = if isKept a s command then [command] else [] := by
  rw [commandsFor, trace_cons_of_isEndless commands h, List.filter_cons]
  cases isKept a s command <;> rfl

/-- The session of the shorter run covers that of the whole run, and the shorter run carries out all
of its commands. -/
theorem IsCoveredBy.run (h : s.IsCoveredBy a s') (hsound : s.cache.IsSound)
    (hsound' : s'.cache.IsSound) (commands : List Command) :
    (s.run commands).IsCoveredBy a (s'.run (commandsFor a s commands)) ∧
      s'.carriedOut (commandsFor a s commands) = commandsFor a s commands := by
  induction commands generalizing s s' with
  | nil => exact ⟨h, rfl⟩
  | cons command commands ih =>
      cases hkept : isKept a s command with
      | true =>
          obtain ⟨hnext, hboth⟩ := h.step_of_isKept hsound hsound' hkept
          cases hends : (s.step command).answer.isEndless with
          | false =>
              rw [hends] at hboth
              obtain ⟨hrun, hout⟩ := ih hnext (isSound_cache_step hsound command)
                (isSound_cache_step hsound' command)
              rw [commandsFor_cons_of_ends hends, if_pos hkept, List.singleton_append,
                run_cons_of_ends _ hends, run_cons_of_ends _ hboth,
                carriedOut_cons_of_ends _ hboth]
              exact ⟨hrun, congrArg _ hout⟩
          | true =>
              rw [hends] at hboth
              rw [commandsFor_cons_of_isEndless hends, if_pos hkept,
                run_cons_of_isEndless _ hends, run_cons_of_isEndless _ hboth,
                carriedOut_cons_of_isEndless _ hboth]
              exact ⟨hnext, rfl⟩
      | false =>
          have hnext := h.step_of_not_isKept hkept
          have hnot : ¬ isKept a s command = true := by
            rw [hkept]
            exact Bool.false_ne_true
          cases hends : (s.step command).answer.isEndless with
          | false =>
              rw [commandsFor_cons_of_ends hends, if_neg hnot, List.nil_append,
                run_cons_of_ends _ hends]
              exact ih hnext (isSound_cache_step hsound command) hsound'
          | true =>
              rw [commandsFor_cons_of_isEndless hends, if_neg hnot, run_cons_of_isEndless _ hends]
              exact ⟨hnext, rfl⟩

/-- Sinks do not interfere. Leave out of any run all commands about other sinks, all mere look-ups
and all commands on objects that are not there. The rest is carried out in full, and at its end the
sink is the same, with all calls that were made on it and all bytes that it took; if its caller never
came to an end, it is in the same loop. So neither the cache and the registries that all objects
share, nor the limit of reports, nor what other sinks do, failing or breaking down, has a part in
what a sink receives. -/
theorem sinks_do_not_interfere (terminal : Terminal) (sinks : Table SinkId Sink) (sink : SinkId)
    (commands : List Command) :
    let first := start terminal sinks
    let rest := commandsFor sink first commands
    rest.Sublist (first.carriedOut commands) ∧ first.carriedOut rest = rest ∧
      (first.run rest).sinks.get? sink = (first.run commands).sinks.get? sink := by
  intro first rest
  have hsound : first.cache.IsSound := Style.Cache.IsSound.empty
  have hcovered : first.IsCoveredBy sink first := .refl Filter.Store.isRecordedBy_empty sink
  obtain ⟨hrun, hout⟩ := hcovered.run hsound hsound commands
  exact ⟨List.filter_sublist.map _, hout, hrun.sink_eq⟩

end

/-! ## One name for two consoles -/

section

open scoped Log.PlainTimes

/-- A console of another sink takes over a name, and its lines are left out with it. -/
example :
    let opens := fun sink => Command.openConsole "c" ⟨some (.named sink), none, none, none, none⟩
    let print := fun text => Command.print "c" false "red".toList text
    let sinks := Table.ofList [(.named "a", .memory []), (.named "b", .memory [])]
    commandsFor (.named "a") (start .forced sinks)
        [opens "a", print ['x'], .lookup ['y'], opens "b", print ['z']] =
      [opens "a", print ['x']] := by
  decide +kernel

end

end TerminalDecoration.Session
