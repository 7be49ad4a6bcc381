/-
# The style cache of a session

All commands of a session share one style cache, and they do nothing to it but look names up, so
whatever a session has done, its cache is one that look-ups have made. From there on nobody can tell
what was looked up before: names are read, stencils made and lines printed as if the cache were
another session's.
-/

import TerminalDecoration.Proofs.Session.Run

namespace TerminalDecoration.Session

open Style (Cache)

variable [Log.TimeLibrary] {s : Session}

/-! ## Histories -/

theorem isSound_cache_step (hsound : s.cache.IsSound) (command : Command) :
    (s.step command).session.cache.IsSound := by
  obtain ⟨names, hcache⟩ := s.cache_step command
  rw [hcache]
  exact hsound.afterLookups names

/-- Whatever a session does, a sound cache stays sound. -/
theorem isSound_cache_run (hsound : s.cache.IsSound) (commands : List Command) :
    (s.run commands).cache.IsSound :=
  run_induction (motive := fun s => s.cache.IsSound)
    (fun _ command h => isSound_cache_step h command) hsound commands

/-- The cache of a session is always a sound one. -/
theorem isSound_cache_run_start (terminal : Terminal) (sinks : Table SinkId Sink)
    (commands : List Command) : ((start terminal sinks).run commands).cache.IsSound :=
  isSound_cache_run Cache.IsSound.empty commands

/-! ## Other caches in the same session -/

omit [Log.TimeLibrary] in
/-- Names are read in the same way from all sound caches. -/
theorem lookup_eq_of_isSound {cache cache' : Cache} (hsound : cache.IsSound)
    (hsound' : cache'.IsSound) (name : List Char) :
    (Style.lookup cache' name).result = (Style.lookup cache name).result := by
  rw [hsound.lookup_result, hsound'.lookup_result]

/-- A stencil is made in the same way from every sound cache. -/
theorem makeStencil_of_isSound {cache : Cache} (hsound : s.cache.IsSound) (hother : cache.IsSound)
    (id : Handle) (style : List Char) (stencil : Handle) :
    ({ s with cache := cache }.step (.makeStencil id style stencil)).answer =
        (s.step (.makeStencil id style stencil)).answer ∧
      ({ s with cache := cache }.step (.makeStencil id style stencil)).session.stencils =
        (s.step (.makeStencil id style stencil)).session.stencils := by
  have hread := lookup_eq_of_isSound hsound hother style
  cases hconsole : s.consoles.get? id with
  | none =>
      simp [step, effect, makeStencil, withObject, table, hconsole, Effect.unknown]
  | some console =>
      simp only [step, effect, makeStencil, withObject, table, hconsole, hread]
      cases (Style.lookup s.cache style).result <;> exact ⟨rfl, rfl⟩

/-- A line is printed in the same way from every sound cache. -/
theorem print_of_isSound {cache : Cache} (hsound : s.cache.IsSound) (hother : cache.IsSound)
    (id : Handle) (overwrite : Bool) (style text : List Char) :
    ({ s with cache := cache }.step (.print id overwrite style text)).answer =
        (s.step (.print id overwrite style text)).answer ∧
      ({ s with cache := cache }.step (.print id overwrite style text)).session.sinks =
        (s.step (.print id overwrite style text)).session.sinks := by
  have hread := lookup_eq_of_isSound hsound hother style
  cases hconsole : s.consoles.get? id with
  | none =>
      simp [step, effect, print, withObject, table, hconsole, Effect.unknown]
  | some console =>
      cases hsink : s.sinks.get? console.sink with
      | none =>
          simp [step, effect, print, withObject, withSink, table, hconsole, hsink, Effect.unknown]
      | some sink =>
          simp only [step, effect, print, withObject, withSink, table, hconsole, hsink,
            Console.print, hread]
          cases (Style.lookup s.cache style).result <;> exact ⟨rfl, rfl⟩

/-- No history shows in a look-up. After any commands the cache keeps at most 256 styles, no name
twice, and each name with the style that it is read as; so a look-up gives exactly what reading the
name gives. And if the cache had any other history, the same stencils would be made, with the same
answers, and the same lines printed. -/
theorem lookup_of_any_history (terminal : Terminal) (sinks : Table SinkId Sink)
    (commands : List Command) (terminal' : Terminal) (sinks' : Table SinkId Sink)
    (commands' : List Command) :
    let s := (start terminal sinks).run commands
    let other := { s with cache := ((start terminal' sinks').run commands').cache }
    (s.cache.entries.length ≤ 256 ∧ s.cache.names.Nodup ∧
      ∀ entry ∈ s.cache.entries, Style.ofName entry.1 = .ok entry.2) ∧
    (∀ name, (Style.lookup s.cache name).result = Style.ofName name) ∧
    (∀ console style stencil,
      (other.step (.makeStencil console style stencil)).answer =
        (s.step (.makeStencil console style stencil)).answer ∧
      (other.step (.makeStencil console style stencil)).session.stencils =
        (s.step (.makeStencil console style stencil)).session.stencils) ∧
    (∀ console overwrite style text,
      (other.step (.print console overwrite style text)).answer =
        (s.step (.print console overwrite style text)).answer ∧
      (other.step (.print console overwrite style text)).session.sinks =
        (s.step (.print console overwrite style text)).session.sinks) := by
  intro s other
  have hsound : s.cache.IsSound := isSound_cache_run_start terminal sinks commands
  have hother := isSound_cache_run_start terminal' sinks' commands'
  exact ⟨⟨hsound.length_le, hsound.nodup_names, hsound.ofName_eq⟩, hsound.lookup_result,
    makeStencil_of_isSound hsound hother, print_of_isSound hsound hother⟩

end TerminalDecoration.Session
