/-
# Classes of word characters

Names are words, and what a word character is depends on the class in use. Markup relies on little
of it: the letters, the digits and the underscore of ASCII may stand in names, and the characters
that tokens and control strings are made of may not.
-/

namespace TerminalDecoration.Text

/-- A class of characters that names are made of. -/
class WordClass where
  /-- Whether a character may stand in a name. -/
  isWord : Char → Bool
  isWord_of_isAlphanum : ∀ {c : Char}, c.isAlphanum = true → isWord c = true
  isWord_underscore : isWord '_' = true
  isWord_eq_false : ∀ {c : Char}, c ∈ ['#', '{', '}', ':', '[', '\x1b', '\n'] → isWord c = false

export WordClass (isWord)

end TerminalDecoration.Text
