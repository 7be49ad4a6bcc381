/-
# Indentation

Each move of a console adds its step to the depth or takes it away, and the depth stops at its ends.
So the depth is the exact sum of the moves as long as no partial sum leaves the range. Where one
does, the way back is not the way there. A step is an unsigned number of 64 bits, so it may be
longer than the way from zero to either end, but not than the way from one end to the other.
-/

import Mathlib.Data.List.Basic
import Mathlib.Data.List.Induction
import Mathlib.Data.List.Infix
import Mathlib.Tactic.Positivity
import Mathlib.Tactic.Ring
import TerminalDecoration.Log.PlainTimes
import TerminalDecoration.Proofs.Line.Parts
import TerminalDecoration.Proofs.Session.Run

namespace TerminalDecoration

/-- One move of a console, a step deeper or a step back. -/
inductive Move where
  | indent
  | outdent
  deriving DecidableEq, Repr

namespace Move

/-- The command for the move. -/
def command (console : Handle) : Move → Session.Command
  | indent => .indent console 1
  | outdent => .outdent console 1

/-- What the move adds to the depth. -/
def amount (step : Nat) : Move → Int
  | indent => step
  | outdent => -step

/-- The depth to which the moves lead from zero if depths have no ends. -/
def exactDepth (step : Nat) (moves : List Move) : Int :=
  step * ((moves.count indent : Int) - moves.count outdent)

/-- No partial sum of the moves leaves the range of depths. -/
def StayInRange (step : Nat) (moves : List Move) : Prop :=
  ∀ front, front <+: moves →
    Console.minDepth ≤ exactDepth step front ∧ exactDepth step front ≤ Console.maxDepth

theorem exactDepth_concat (step : Nat) (moves : List Move) (m : Move) :
    exactDepth step (moves ++ [m]) = exactDepth step moves + m.amount step := by
  cases m with
  | indent =>
      have hindents : (moves ++ [indent]).count indent = moves.count indent + 1 := by simp
      have houtdents : (moves ++ [indent]).count outdent = moves.count outdent := by simp
      rw [exactDepth, exactDepth, hindents, houtdents, Nat.cast_succ, amount]
      ring
  | outdent =>
      have hindents : (moves ++ [outdent]).count indent = moves.count indent := by simp
      have houtdents : (moves ++ [outdent]).count outdent = moves.count outdent + 1 := by simp
      rw [exactDepth, exactDepth, hindents, houtdents, Nat.cast_succ, amount]
      ring

theorem exactDepth_eq_of_perm (step : Nat) {moves moves' : List Move} (h : moves.Perm moves') :
    exactDepth step moves = exactDepth step moves' := by
  rw [exactDepth, exactDepth, h.count_eq, h.count_eq]

theorem exactDepth_of_balanced (step : Nat) {moves : List Move}
    (h : moves.count indent = moves.count outdent) : exactDepth step moves = 0 := by
  rw [exactDepth, h, Int.sub_self, Int.mul_zero]

end Move

namespace Console

/-- The console after a move. -/
def move (console : Console) : Move → Console
  | .indent => console.indent
  | .outdent => console.outdent

/-- The console after these moves. -/
def afterMoves (console : Console) (moves : List Move) : Console := moves.foldl move console

theorem afterMoves_concat (console : Console) (moves : List Move) (m : Move) :
    console.afterMoves (moves ++ [m]) = (console.afterMoves moves).move m :=
  List.foldl_concat ..

theorem afterMoves_append (console : Console) (moves more : List Move) :
    console.afterMoves (moves ++ more) = (console.afterMoves moves).afterMoves more :=
  List.foldl_append ..

/-- A move changes nothing but the depth. -/
theorem afterMoves_eq (console : Console) (moves : List Move) :
    console.afterMoves moves = { console with depth := (console.afterMoves moves).depth } := by
  induction moves using List.reverseRecOn with
  | nil => rfl
  | append_singleton moves m ih =>
      rw [afterMoves_concat]
      cases m <;> rw [ih] <;> rfl

theorem indentStep_afterMoves (console : Console) (moves : List Move) :
    (console.afterMoves moves).indentStep = console.indentStep := by
  rw [afterMoves_eq]

/-! ## The depth after a move -/

/-- The depth is in its range. -/
def IsInRange (console : Console) : Prop := minDepth ≤ console.depth ∧ console.depth ≤ maxDepth

/-- The depth that is nearest within the range. -/
def clamp (depth : Int) : Int := max (min depth maxDepth) minDepth

theorem clamp_eq_self {depth : Int} (hmin : minDepth ≤ depth) (hmax : depth ≤ maxDepth) :
    clamp depth = depth := by
  rw [clamp, min_eq_left hmax, max_eq_left hmin]

theorem clamp_isInRange (depth : Int) : minDepth ≤ clamp depth ∧ clamp depth ≤ maxDepth := by
  have hends : minDepth ≤ maxDepth := by decide
  rw [clamp]
  omega

variable {console : Console}

/-- A move adds its amount and stops at the ends. -/
theorem depth_move (h : console.IsInRange) (m : Move) :
    (console.move m).depth = clamp (console.depth + m.amount console.indentStep) := by
  obtain ⟨hmin, hmax⟩ := h
  have hends : minDepth ≤ maxDepth := by decide
  rw [clamp]
  cases m with
  | indent =>
      show min (console.depth + console.indentStep) maxDepth = _
      rw [Move.amount]
      omega
  | outdent =>
      show max (console.depth - console.indentStep) minDepth = _
      rw [Move.amount]
      omega

theorem IsInRange.move (h : console.IsInRange) (m : Move) : (console.move m).IsInRange := by
  rw [IsInRange, depth_move h]
  exact clamp_isInRange _

theorem IsInRange.afterMoves (h : console.IsInRange) (moves : List Move) :
    (console.afterMoves moves).IsInRange := by
  induction moves using List.reverseRecOn with
  | nil => exact h
  | append_singleton moves m ih =>
      rw [afterMoves_concat]
      exact ih.move m

theorem depth_afterMoves_concat (h : console.IsInRange) (moves : List Move) (m : Move) :
    (console.afterMoves (moves ++ [m])).depth =
      clamp ((console.afterMoves moves).depth + m.amount console.indentStep) := by
  rw [afterMoves_concat, depth_move (h.afterMoves moves), indentStep_afterMoves]

/-- Moves of one kind stop once at most, so they can be added up first. -/
theorem depth_afterMoves_replicate (h : console.IsInRange) (n : Nat) (m : Move) :
    (console.afterMoves (List.replicate n m)).depth =
      clamp (console.depth + n * m.amount console.indentStep) := by
  induction n with
  | zero =>
      rw [List.replicate_zero, Nat.cast_zero, Int.zero_mul, Int.add_zero, clamp_eq_self h.1 h.2]
      rfl
  | succ n ih =>
      have hsucc : ((n + 1 : Nat) : Int) * m.amount console.indentStep =
          n * m.amount console.indentStep + m.amount console.indentStep := by
        rw [Nat.cast_succ, add_one_mul]
      have hsteps : 0 ≤ (n : Int) * console.indentStep := by positivity
      rw [List.replicate_succ', depth_afterMoves_concat h, ih, hsucc]
      obtain ⟨hmin, hmax⟩ := h
      rw [clamp, clamp, clamp]
      cases m with
      | indent =>
          rw [Move.amount]
          omega
      | outdent =>
          rw [Move.amount, Int.mul_neg]
          omega

theorem isInRange_of_depth_eq_zero (hzero : console.depth = 0) : console.IsInRange := by
  rw [IsInRange, hzero]
  decide

/-- Moves in are cut short at the greatest depth, and the moves back after them at the least. -/
theorem depth_afterMoves_there_and_back (hzero : console.depth = 0) (n m : Nat) :
    (console.afterMoves (List.replicate n .indent ++ List.replicate m .outdent)).depth =
      max (min ((n : Int) * console.indentStep) maxDepth - m * console.indentStep) minDepth := by
  have hrange := isInRange_of_depth_eq_zero hzero
  have hin : 0 ≤ (n : Int) * console.indentStep := by positivity
  have hback : 0 ≤ (m : Int) * console.indentStep := by positivity
  have hends : minDepth ≤ 0 ∧ 0 ≤ maxDepth := by decide
  rw [afterMoves_append, depth_afterMoves_replicate (hrange.afterMoves _),
    depth_afterMoves_replicate hrange, indentStep_afterMoves, hzero, Move.amount, Move.amount,
    Int.mul_neg, clamp, clamp]
  omega

/-- From zero the depth is the exact sum of the moves, if none of their partial sums leaves the
range. -/
theorem depth_afterMoves_of_stayInRange (hzero : console.depth = 0) {moves : List Move}
    (h : Move.StayInRange console.indentStep moves) :
    (console.afterMoves moves).depth = Move.exactDepth console.indentStep moves := by
  have hrange := isInRange_of_depth_eq_zero hzero
  induction moves using List.reverseRecOn with
  | nil =>
      rw [Move.exactDepth_of_balanced _ rfl]
      exact hzero
  | append_singleton moves m ih =>
      have hfront : Move.StayInRange console.indentStep moves :=
        fun front hfront => h front (hfront.trans (List.prefix_append moves [m]))
      have hwhole := h (moves ++ [m]) List.prefix_rfl
      rw [Move.exactDepth_concat] at hwhole ⊢
      rw [depth_afterMoves_concat hrange, ih hfront]
      exact clamp_eq_self hwhole.1 hwhole.2

/-- A step back undoes the step before it unless that one met the end of the range. -/
theorem depth_indent_outdent_eq_iff (h : console.IsInRange)
    (hstep : console.indentStep ≤ 18446744073709551615) :
    console.indent.outdent.depth = console.depth ↔
      console.depth + console.indentStep ≤ maxDepth := by
  obtain ⟨hmin, hmax⟩ := h
  have hback : console.indent.outdent.depth =
      max (min (console.depth + console.indentStep) maxDepth - console.indentStep) minDepth := rfl
  rw [hback]
  rw [minDepth] at hmin ⊢
  rw [maxDepth] at hmax ⊢
  omega

/-- The depths to which moves lead a console. -/
structure IsDepth (console : Console) (depth : List Move → Int) : Prop where
  /-- The depth never leaves its range. -/
  isInRange : ∀ moves, minDepth ≤ depth moves ∧ depth moves ≤ maxDepth
  /-- A move in never leads out, so the depth does not jump from one end to the other. -/
  le_indent : ∀ moves, depth moves ≤ depth (moves ++ [.indent])
  outdent_le : ∀ moves, depth (moves ++ [.outdent]) ≤ depth moves
  /-- If no partial sum leaves the range, the depth is the exact sum. -/
  eq_sum : ∀ moves, Move.StayInRange console.indentStep moves →
    depth moves = console.indentStep * ((moves.count .indent : Int) - moves.count .outdent)
  /-- So the order of the moves does not matter then. -/
  eq_of_perm : ∀ moves moves', moves.Perm moves' → Move.StayInRange console.indentStep moves →
    Move.StayInRange console.indentStep moves' → depth moves = depth moves'
  /-- And moves that cancel out lead back to zero. -/
  eq_zero : ∀ moves, Move.StayInRange console.indentStep moves →
    moves.count .indent = moves.count .outdent → depth moves = 0
  /-- Moves in and then moves back stop at the one end and then at the other. -/
  there_and_back : ∀ n m : Nat,
    depth (List.replicate n .indent ++ List.replicate m .outdent) =
      max (min (n * (console.indentStep : Int)) maxDepth - m * (console.indentStep : Int)) minDepth
  /-- A move back undoes the move in before it unless that one was cut short. -/
  undo_iff : ∀ moves, depth (moves ++ [.indent, .outdent]) = depth moves ↔
    depth moves + console.indentStep ≤ maxDepth
  /-- Lines have as many spaces in front as the depth says, or none if it is negative. -/
  indent_eq : ∀ moves, let now : Console := { console with depth := depth moves }
    (now.layout.indent : Int) = max 0 (depth moves) ∧
    ∀ style text, (now.stencil style).fill text =
      List.replicate now.layout.indent ' ' ++ (console.stencil style).fill text

/-- From zero, moves lead to the depths that they should. -/
theorem isDepth_afterMoves (hzero : console.depth = 0)
    (hstep : console.indentStep ≤ 18446744073709551615) :
    console.IsDepth fun moves => (console.afterMoves moves).depth := by
  have hfresh : console.IsInRange := isInRange_of_depth_eq_zero hzero
  have hexact (moves : List Move) (h : Move.StayInRange console.indentStep moves) :
      (console.afterMoves moves).depth = Move.exactDepth console.indentStep moves :=
    depth_afterMoves_of_stayInRange hzero h
  constructor
  case isInRange => exact hfresh.afterMoves
  case le_indent =>
    intro moves
    obtain ⟨hmin, hmax⟩ := hfresh.afterMoves moves
    rw [depth_afterMoves_concat hfresh, clamp, Move.amount]
    omega
  case outdent_le =>
    intro moves
    obtain ⟨hmin, hmax⟩ := hfresh.afterMoves moves
    rw [depth_afterMoves_concat hfresh, clamp, Move.amount]
    omega
  case eq_sum => exact hexact
  case eq_of_perm =>
    intro moves moves' hperm h h'
    rw [hexact moves h, hexact moves' h', Move.exactDepth_eq_of_perm _ hperm]
  case eq_zero =>
    intro moves h hcount
    rw [hexact moves h, Move.exactDepth_of_balanced _ hcount]
  case there_and_back => exact depth_afterMoves_there_and_back hzero
  case undo_iff =>
    intro moves
    have hundo := depth_indent_outdent_eq_iff (hfresh.afterMoves moves)
      (by rwa [indentStep_afterMoves])
    rw [indentStep_afterMoves] at hundo
    rw [afterMoves_append]
    exact hundo
  case indent_eq =>
    intro moves now
    have hlayout : console.layout = ⟨0, console.flags⟩ := by
      rw [layout, hzero]
      rfl
    refine ⟨?_, fun style text => ?_⟩
    · show ((console.afterMoves moves).depth.toNat : Int) = _
      rw [Int.toNat_eq_max, Int.max_comm]
    · rw [stencil, stencil, hlayout]
      exact Line.fill_ofStyle_eq style _ _ text

end Console

/-! ## Consoles of a session -/

namespace Session

section

variable [Log.TimeLibrary]

/-- A console makes the moves that it is told. -/
theorem get?_consoles_run_moves {s : Session} {id : Handle} {console : Console}
    (h : s.consoles.get? id = some console) (moves : List Move) :
    (s.run (moves.map (Move.command id))).consoles.get? id = some (console.afterMoves moves) := by
  induction moves generalizing s console with
  | nil => exact h
  | cons m moves ih =>
      have hstep : s.step (m.command id) =
          ⟨s.apply (.put .console id (console.move m)),
            .depth (console.move m).depth (console.move m).layout.indent, []⟩ := by
        cases m with
        | indent =>
            rw [Move.command, step, effect, shiftConsole, withObject_of_get? .console h]
            rfl
        | outdent =>
            rw [Move.command, step, effect, shiftConsole, withObject_of_get? .console h]
            rfl
      have hends : (s.step (m.command id)).answer.isEndless = false := by
        rw [hstep]
        rfl
      rw [List.map_cons, run_cons_of_ends _ hends, hstep]
      exact ih ((Table.get?_insert ..).trans (if_pos rfl))

/-- What depth a new console has after any moves: there are depths as they should be, and after
whatever moves the console has the depth for these and is the same otherwise. -/
theorem depth_after_moves (s : Session) (id : Handle) (options : Console.Options)
    (hstep : (Console.ofOptions s.decorated options).indentStep < 2 ^ 64) :
    let fresh := Console.ofOptions s.decorated options
    let opened := (s.step (.openConsole id options)).session
    ∃ depth : List Move → Int, fresh.IsDepth depth ∧
      ∀ moves, (opened.run (moves.map (Move.command id))).consoles.get? id =
        some { fresh with depth := depth moves } := by
  intro fresh opened
  have hopened : opened.consoles.get? id = some fresh :=
    (Table.get?_insert ..).trans (if_pos rfl)
  refine ⟨_, Console.isDepth_afterMoves rfl (Nat.le_of_lt_succ hstep), fun moves => ?_⟩
  rw [get?_consoles_run_moves hopened, ← Console.afterMoves_eq]

end

section

open scoped Log.PlainTimes

/-- A step of half the range: out to the least depth and in again leads back to zero, but in first,
where the greatest depth is one less than the step, and out again leads to minus one. -/
theorem depth_after_moves_half_range :
    let options : Console.Options := ⟨none, some (2 ^ 63), none, none, none⟩
    let s := start .forced .empty
    let opened := (s.step (.openConsole "c" options)).session
    let depth (moves : List Move) : Option Int :=
      ((opened.run (moves.map (Move.command "c"))).consoles.get? "c").map Console.depth
    let fresh := Console.ofOptions s.decorated options
    fresh.indentStep < 2 ^ 64 ∧ Move.StayInRange fresh.indentStep [.outdent, .indent] ∧
      depth [.outdent, .indent] = some 0 ∧ depth [.indent, .outdent] = some (-1) := by
  intro options s opened depth fresh
  have hstep : fresh.indentStep < 2 ^ 64 := by decide
  have hstay : Move.StayInRange fresh.indentStep [.outdent, .indent] := by
    have hall : ∀ front ∈ [Move.outdent, .indent].inits,
        Console.minDepth ≤ Move.exactDepth fresh.indentStep front ∧
          Move.exactDepth fresh.indentStep front ≤ Console.maxDepth := by decide +kernel
    exact fun front hfront => hall front ((List.mem_inits front _).2 hfront)
  obtain ⟨depth', hlaws, hdepth⟩ := depth_after_moves s "c" options hstep
  have heq (moves : List Move) : depth moves = some (depth' moves) :=
    congrArg (Option.map Console.depth) (hdepth moves)
  refine ⟨hstep, hstay, ?_, ?_⟩
  · rw [heq, hlaws.eq_zero [.outdent, .indent] hstay rfl]
  · rw [heq]
    exact congrArg some ((hlaws.there_and_back 1 1).trans (by decide +kernel))

end

end Session

end TerminalDecoration
