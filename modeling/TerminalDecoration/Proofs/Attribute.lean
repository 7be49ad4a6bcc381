/-
# The tables of names

The tables list every color and every effect, and looking a name up in them finds exactly the
attribute that it is written for. No two entries share a name; the bare name of a color stands for
the color in front.
-/

import TerminalDecoration.Attribute

namespace TerminalDecoration

namespace Color

theorem mem_all (c : Color) : c ∈ all := by
  cases c <;> decide

theorem named?_eq_some_iff {name : List Char} {c : Color} :
    named? name = some c ↔ name = c.name := by
  constructor
  · intro h
    have hname := List.find?_some h
    exact (of_decide_eq_true hname).symm
  · intro h
    rw [h]
    cases c <;> decide

end Color

namespace Effect

theorem mem_all (e : Effect) : e ∈ all := by
  cases e <;> decide

theorem named?_eq_some_iff {name : List Char} {e : Effect} :
    named? name = some e ↔ name = e.name := by
  constructor
  · intro h
    have hname := List.find?_some h
    exact (of_decide_eq_true hname).symm
  · intro h
    rw [h]
    cases e <;> decide

end Effect

namespace Attribute

/-- Every attribute: the colors in front and behind, and the effects. -/
def all : List Attribute :=
  Color.all.map foreground ++ Color.all.map background ++ Effect.all.map effect

theorem mem_all (a : Attribute) : a ∈ all := by
  rw [all, List.mem_append, List.mem_append]
  cases a with
  | foreground c =>
      left
      left
      exact List.mem_map_of_mem c.mem_all
  | background c =>
      left
      right
      exact List.mem_map_of_mem c.mem_all
  | effect e =>
      right
      exact List.mem_map_of_mem e.mem_all

/-- Whether the attribute is a color behind. -/
def isBackground : Attribute → Bool
  | background _ => true
  | _ => false

/-- A bare name stands for an effect or for a color in front. -/
theorem named?_eq_some_iff {name : List Char} {a : Attribute} :
    named? name = some a ↔ a.isBackground = false ∧ name = a.name := by
  have hall : ∀ a ∈ all, a.isBackground = false → named? a.name = some a := by decide
  constructor
  · intro h
    rw [named?] at h
    cases heffect : Effect.named? name with
    | some e =>
        rw [heffect] at h
        cases h
        exact ⟨rfl, Effect.named?_eq_some_iff.1 heffect⟩
    | none =>
        rw [heffect] at h
        rcases Option.map_eq_some_iff.1 h with ⟨c, hcolor, rfl⟩
        exact ⟨rfl, Color.named?_eq_some_iff.1 hcolor⟩
  · intro h
    rw [h.2]
    exact hall a a.mem_all h.1

end Attribute

end TerminalDecoration
