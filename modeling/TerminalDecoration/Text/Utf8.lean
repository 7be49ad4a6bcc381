/-
# UTF-8

Characters as one to four bytes. The first byte of a well-formed sequence fixes how many bytes
follow and in which range the second byte lies; all further bytes lie between `0x80` and `0xBF`.
Reading bytes gives the characters of the well-formed sequences and marks each ill-formed stretch:
the longest start of a sequence that is broken off, or one byte that starts none.
-/

namespace TerminalDecoration.Text.Utf8

/-- The bytes of a text. -/
def encode (s : List Char) : List UInt8 := s.flatMap String.utf8EncodeChar

/-- What the first byte of a sequence of several bytes says of the others. -/
structure Lead where
  /-- The bits of the character in the first byte. -/
  bits : Nat
  /-- How many bytes follow. -/
  following : Nat
  /-- The least value of the second byte. -/
  low : UInt8
  /-- The greatest value of the second byte. -/
  high : UInt8

/-- The sequences that a byte can start. The narrower ranges leave out what has a shorter form,
the surrogates, and what lies beyond the last character. -/
def lead? (b : UInt8) : Option Lead :=
  if b < 0x80 then some ⟨b.toNat, 0, 0x80, 0xBF⟩
  else if b < 0xC2 then none
  else if b < 0xE0 then some ⟨b.toNat - 0xC0, 1, 0x80, 0xBF⟩
  else if b = 0xE0 then some ⟨0, 2, 0xA0, 0xBF⟩
  else if b = 0xED then some ⟨0xD, 2, 0x80, 0x9F⟩
  else if b < 0xF0 then some ⟨b.toNat - 0xE0, 2, 0x80, 0xBF⟩
  else if b = 0xF0 then some ⟨0, 3, 0x90, 0xBF⟩
  else if b < 0xF4 then some ⟨b.toNat - 0xF0, 3, 0x80, 0xBF⟩
  else if b = 0xF4 then some ⟨4, 3, 0x80, 0x8F⟩
  else none

/-- Reads the bytes that follow. A byte out of its range breaks the sequence off and is left. -/
def readFollowing : Nat → UInt8 → UInt8 → Nat → List UInt8 → Option Char × List UInt8
  | 0, _, _, bits, bytes => (some (Char.ofNat bits), bytes)
  | _ + 1, _, _, _, [] => (none, [])
  | following + 1, low, high, bits, b :: bytes =>
    if low ≤ b ∧ b ≤ high then
      readFollowing following 0x80 0xBF (bits * 64 + (b.toNat - 0x80)) bytes
    else (none, b :: bytes)

/-- Reading the bytes that follow never lengthens what is left. -/
theorem length_readFollowing_le (following : Nat) (low high : UInt8) (bits : Nat)
    (bytes : List UInt8) :
    (readFollowing following low high bits bytes).2.length ≤ bytes.length := by
  induction following generalizing low high bits bytes with
  | zero => simp [readFollowing]
  | succ following ih =>
    cases bytes with
    | nil => simp [readFollowing]
    | cons b bytes =>
      unfold readFollowing
      split
      · exact Nat.le_succ_of_le (ih ..)
      · exact Nat.le_refl _

/-- Reads one character, or `none` for one ill-formed stretch. -/
def readOne (b : UInt8) (bytes : List UInt8) : Option Char × List UInt8 :=
  match lead? b with
  | none => (none, bytes)
  | some lead => readFollowing lead.following lead.low lead.high lead.bits bytes

/-- What one reading leaves is no longer than what followed the first byte. -/
theorem length_readOne_le (b : UInt8) (bytes : List UInt8) :
    (readOne b bytes).2.length ≤ bytes.length := by
  unfold readOne
  split
  · exact Nat.le_refl _
  · exact length_readFollowing_le ..

/-- All characters of the bytes, with `none` for each ill-formed stretch. -/
def scan : List UInt8 → List (Option Char)
  | [] => []
  | b :: bytes => (readOne b bytes).1 :: scan (readOne b bytes).2
termination_by bytes => bytes.length
decreasing_by exact Nat.lt_succ_of_le (length_readOne_le b bytes)

/-- The text of which these are the bytes, if they are well formed throughout. -/
def decode? (bytes : List UInt8) : Option (List Char) := (scan bytes).mapM id

/-- The character shown for an ill-formed stretch. -/
def replacement : Char := '\uFFFD'

/-- The text with a replacement character for each ill-formed stretch. -/
def decodeLossy (bytes : List UInt8) : List Char := (scan bytes).map (·.getD replacement)

end TerminalDecoration.Text.Utf8
