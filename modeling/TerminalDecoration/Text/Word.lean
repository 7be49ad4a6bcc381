/-
# Word characters

The characters that a token's name is made of, unless another class is in use. Below 128 these are
the letters, the digits and the underscore; beyond, the tables of `WordRanges` decide.
-/

import TerminalDecoration.Text.Ranges
import TerminalDecoration.Text.WordClass
import TerminalDecoration.Text.WordRanges

namespace TerminalDecoration.Text

/-- Whether a character is a word character of Unicode. -/
def isUnicodeWord (c : Char) : Bool :=
  if c.toNat < 128 then c.isAlphanum || c == '_'
  else if c.toNat < 0x10000 then inRanges basicWordRanges c.toNat
  else inRanges supplementaryWordRanges c.toNat

theorem isUnicodeWord_of_isAlphanum {c : Char} (h : c.isAlphanum = true) :
    isUnicodeWord c = true := by
  have hascii : c.toNat < 128 := by
    have hranges : (decide (c.val ≥ 65 ∧ c.val ≤ 90) || (c.val ≥ 97 && c.val ≤ 122) ||
        (c.val ≥ 48 && c.val ≤ 57)) = true := h
    simp only [Bool.or_eq_true, Bool.and_eq_true, decide_eq_true_eq, ge_iff_le,
      UInt32.le_iff_toNat_le] at hranges
    change ((65 ≤ c.toNat ∧ c.toNat ≤ 90) ∨ (97 ≤ c.toNat ∧ c.toNat ≤ 122)) ∨
      (48 ≤ c.toNat ∧ c.toNat ≤ 57) at hranges
    omega
  rw [isUnicodeWord, if_pos hascii, h, Bool.true_or]

instance unicodeWords : WordClass where
  isWord := isUnicodeWord
  isWord_of_isAlphanum := isUnicodeWord_of_isAlphanum
  isWord_underscore := by decide
  isWord_eq_false := by
    intro c hc
    simp only [List.mem_cons, List.not_mem_nil, or_false] at hc
    rcases hc with rfl | rfl | rfl | rfl | rfl | rfl | rfl <;> decide

end TerminalDecoration.Text
