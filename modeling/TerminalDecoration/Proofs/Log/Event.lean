/-
# The text of an event

The fields of an event are read one by one, and its text grows by each of them, with a blank between
unless nothing stands there yet. What comes out is a plain list of texts with blanks between them:
the message that was recorded last, unless there is none or an empty one, and then all other fields
in their order.
-/

import Mathlib.Data.List.Basic
import Mathlib.Data.List.Induction
import TerminalDecoration.Log.Event

namespace TerminalDecoration.Log.Event

/-- The message that was recorded last. -/
def message? (event : Event) : Option (List Char) :=
  (event.fields.filter fun field => field.key = Field.messageKey).getLast?.map fun field =>
    field.value.render

/-- The texts that make up the text of the event. -/
def parts (event : Event) : List (List Char) :=
  (event.message?.toList.filter fun message => message ≠ []) ++
    (event.fields.filter fun field => field.key ≠ Field.messageKey).map fun field =>
      field.key ++ '=' :: field.value.render

/-! ## Reading the fields -/

theorem Reading.add_of_message {reading : Reading} {field : Field}
    (h : field.key = Field.messageKey) :
    reading.add field = { reading with message := some field.value.render } := by
  rw [Reading.add, if_pos]
  exact beq_iff_eq.2 h

theorem Reading.add_of_other {reading : Reading} {field : Field}
    (h : field.key ≠ Field.messageKey) :
    reading.add field = { reading with others := reading.others ++ [field] } := by
  rw [Reading.add, if_neg]
  exact fun hmessage => h (beq_iff_eq.1 hmessage)

/-- The last message wins, and the other fields keep their order. -/
theorem reading_eq (event : Event) :
    event.reading =
      ⟨event.message?, event.fields.filter fun field => field.key ≠ Field.messageKey⟩ := by
  rw [reading, message?]
  induction event.fields using List.reverseRecOn with
  | nil => rfl
  | append_singleton fields field ih =>
      rw [List.foldl_concat, ih]
      by_cases hfield : field.key = Field.messageKey
      · rw [Reading.add_of_message hfield]
        simp [hfield]
      · rw [Reading.add_of_other hfield]
        simp [hfield]

/-! ## Putting the texts together -/

theorem intercalate_append_cons {α : Type} (separator xs ys : List α) (more : List (List α)) :
    List.intercalate separator ((xs ++ ys) :: more) =
      xs ++ List.intercalate separator (ys :: more) := by
  cases more with
  | nil => rw [List.intercalate_singleton, List.intercalate_singleton]
  | cons zs more => simp

/-- A text to which fields are added is joined from it and from them, unless it is empty. -/
theorem foldl_addField (text : List Char) (fields : List Field) :
    fields.foldl addField text =
      List.intercalate [' ']
        ([text].filter (fun message => message ≠ []) ++ fields.map Field.render) := by
  induction fields generalizing text with
  | nil =>
      by_cases htext : text = []
      · rw [htext]
        rfl
      · simp [htext]
  | cons field fields ih =>
      have hfield : field.render ≠ [] := by simp [Field.render]
      rw [List.foldl_cons, ih]
      by_cases htext : text = []
      · simp [addField, htext, hfield]
      · simp [addField, htext, intercalate_append_cons]

theorem text_eq_intercalate (event : Event) :
    event.text = List.intercalate [' '] event.parts := by
  rw [text, reading_eq, foldl_addField, parts]
  cases event.message? with
  | none => rfl
  | some message => rfl

end TerminalDecoration.Log.Event
