/-
# Reading encoded texts

The bytes of a text are read as that text. A character is encoded in one to four bytes, the first of
which tells how many there are; each byte behind it carries six more bits. The ranges for the second
byte leave out only what no character needs.
-/

import TerminalDecoration.Text.Utf8

namespace TerminalDecoration.Text.Utf8

theorem encode_append (s t : List Char) : encode (s ++ t) = encode s ++ encode t :=
  List.flatMap_append

/-- Every character that is taken away takes at least one byte away. -/
theorem length_encode_add_le {s t : List Char} (h : s.Sublist t) :
    (encode s).length + t.length ≤ (encode t).length + s.length := by
  induction h with
  | slnil => exact Nat.le_refl _
  | cons c _ ih =>
      have hpos := c.utf8Size_pos
      rw [encode, encode] at ih ⊢
      rw [List.flatMap_cons, List.length_append, String.length_utf8EncodeChar, List.length_cons]
      omega
  | cons_cons c _ ih =>
      rw [encode, encode] at ih ⊢
      rw [List.flatMap_cons, List.flatMap_cons, List.length_append, List.length_append,
        List.length_cons, List.length_cons]
      omega

/-! ## The bytes behind the first -/

/-- The byte that carries these six bits behind the first. -/
abbrev following (bits : Nat) : UInt8 := UInt8.ofNat (bits % 64 + 0x80)

theorem toNat_following (bits : Nat) : (following bits).toNat = bits % 64 + 0x80 := by
  rw [following, UInt8.toNat_ofNat']
  omega

/-- A byte behind the first adds its bits, if the range admits it. -/
theorem readFollowing_succ {count : Nat} {low high : UInt8} {bits more : Nat}
    (hlow : low.toNat ≤ more % 64 + 0x80) (hhigh : more % 64 + 0x80 ≤ high.toNat)
    (bytes : List UInt8) :
    readFollowing (count + 1) low high bits (following more :: bytes) =
      readFollowing count 0x80 0xBF (bits * 64 + more % 64) bytes := by
  have hrange : low ≤ following more ∧ following more ≤ high := by
    rw [UInt8.le_iff_toNat_le, UInt8.le_iff_toNat_le, toNat_following]
    exact ⟨hlow, hhigh⟩
  rw [readFollowing, if_pos hrange, toNat_following, Nat.add_sub_cancel]

/-- Every byte behind the second is in range. -/
theorem readFollowing_succ_all (count bits more : Nat) (bytes : List UInt8) :
    readFollowing (count + 1) 0x80 0xBF bits (following more :: bytes) =
      readFollowing count 0x80 0xBF (bits * 64 + more % 64) bytes := by
  apply readFollowing_succ
  · show 0x80 ≤ more % 64 + 0x80
    omega
  · show more % 64 + 0x80 ≤ 0xBF
    omega

/-! ## The first byte -/

theorem toNat_ofNat_of_lt {n : Nat} (h : n < 256) : (UInt8.ofNat n).toNat = n := by
  rw [UInt8.toNat_ofNat']
  omega

theorem lead?_one {n : Nat} (h : n < 0x80) :
    lead? (UInt8.ofNat n) = some ⟨n, 0, 0x80, 0xBF⟩ := by
  have hbyte : (UInt8.ofNat n).toNat = n := toNat_ofNat_of_lt (by omega)
  simp only [lead?, UInt8.lt_iff_toNat_lt, hbyte, UInt8.reduceToNat]
  rw [if_pos h]

theorem lead?_two {n : Nat} (hlow : 2 ≤ n) (hhigh : n < 32) :
    lead? (UInt8.ofNat (n + 0xC0)) = some ⟨n, 1, 0x80, 0xBF⟩ := by
  have hbyte : (UInt8.ofNat (n + 0xC0)).toNat = n + 0xC0 := toNat_ofNat_of_lt (by omega)
  simp only [lead?, UInt8.lt_iff_toNat_lt, hbyte, UInt8.reduceToNat]
  rw [if_neg (by omega), if_neg (by omega), if_pos (by omega), Nat.add_sub_cancel]

/-- The second byte of a sequence of three is in range: with the first bits zero it is not one of
the lower half, which have shorter forms, and with the bits of the surrogates it is not one of
those. -/
theorem lead?_three (n second : Nat) (hn : n < 16) (hsecond : second < 64)
    (hshort : n = 0 → 32 ≤ second) (hsurrogate : n = 13 → second < 32) :
    ∃ low high, lead? (UInt8.ofNat (n + 0xE0)) = some ⟨n, 2, low, high⟩ ∧
      low.toNat ≤ second + 0x80 ∧ second + 0x80 ≤ high.toNat := by
  have hbyte : (UInt8.ofNat (n + 0xE0)).toNat = n + 0xE0 := toNat_ofNat_of_lt (by omega)
  simp only [lead?, UInt8.lt_iff_toNat_lt, ← UInt8.toNat_inj, hbyte, UInt8.reduceToNat]
  rw [if_neg (by omega), if_neg (by omega), if_neg (by omega)]
  by_cases hzero : n = 0
  · subst hzero
    exact ⟨0xA0, 0xBF, rfl, by simpa using hshort rfl, by simp; omega⟩
  · rw [if_neg (by omega)]
    by_cases hthirteen : n = 13
    · subst hthirteen
      have hless := hsurrogate rfl
      exact ⟨0x80, 0x9F, rfl, by simp, by simp; omega⟩
    · rw [if_neg (by omega), if_pos (by omega), Nat.add_sub_cancel]
      exact ⟨0x80, 0xBF, rfl, by simp, by simp; omega⟩

/-- The second byte of a sequence of four is in range: with the first bits zero it is not one of
the lowest, which have shorter forms, and with the greatest first bits it stays below the last
character. -/
theorem lead?_four (n second : Nat) (hn : n < 5) (hsecond : second < 64)
    (hshort : n = 0 → 16 ≤ second) (hlast : n = 4 → second < 16) :
    ∃ low high, lead? (UInt8.ofNat (n + 0xF0)) = some ⟨n, 3, low, high⟩ ∧
      low.toNat ≤ second + 0x80 ∧ second + 0x80 ≤ high.toNat := by
  have hbyte : (UInt8.ofNat (n + 0xF0)).toNat = n + 0xF0 := toNat_ofNat_of_lt (by omega)
  simp only [lead?, UInt8.lt_iff_toNat_lt, ← UInt8.toNat_inj, hbyte, UInt8.reduceToNat]
  rw [if_neg (by omega), if_neg (by omega), if_neg (by omega), if_neg (by omega),
    if_neg (by omega), if_neg (by omega)]
  by_cases hzero : n = 0
  · subst hzero
    exact ⟨0x90, 0xBF, rfl, by simpa using hshort rfl, by simp; omega⟩
  · rw [if_neg (by omega)]
    by_cases hfour : n = 4
    · subst hfour
      have hless := hlast rfl
      exact ⟨0x80, 0x8F, rfl, by simp, by simp; omega⟩
    · rw [if_pos (by omega), Nat.add_sub_cancel]
      exact ⟨0x80, 0xBF, rfl, by simp, by simp; omega⟩

/-! ## Whole characters -/

section

variable {v : Nat} (bytes : List UInt8)

theorem readOne_one (hv : v ≤ 0x7F) :
    readOne (UInt8.ofNat v) bytes = (some (Char.ofNat v), bytes) := by
  have hlead := lead?_one (n := v) (by omega)
  rw [readOne, hlead]
  dsimp only
  rw [readFollowing]

theorem readOne_two (hlow : 0x7F < v) (hhigh : v ≤ 0x7FF) :
    readOne (UInt8.ofNat (v / 64 % 32 + 0xC0)) (following v :: bytes) =
      (some (Char.ofNat v), bytes) := by
  have hlead := lead?_two (n := v / 64 % 32) (by omega) (by omega)
  have hbits : v / 64 % 32 * 64 + v % 64 = v := by omega
  rw [readOne, hlead]
  dsimp only
  rw [readFollowing_succ_all, readFollowing, hbits]

theorem readOne_three (hlow : 0x7FF < v) (hhigh : v ≤ 0xFFFF)
    (hsurrogate : v < 0xD800 ∨ 0xDFFF < v) :
    readOne (UInt8.ofNat (v / 4096 % 16 + 0xE0)) (following (v / 64) :: following v :: bytes) =
      (some (Char.ofNat v), bytes) := by
  obtain ⟨low, high, hlead, hsecond⟩ := lead?_three (v / 4096 % 16) (v / 64 % 64)
    (by omega) (by omega) (by omega) (by omega)
  have hbits : (v / 4096 % 16 * 64 + v / 64 % 64) * 64 + v % 64 = v := by omega
  rw [readOne, hlead]
  dsimp only
  rw [readFollowing_succ hsecond.1 hsecond.2, readFollowing_succ_all, readFollowing, hbits]

theorem readOne_four (hlow : 0xFFFF < v) (hhigh : v < 0x110000) :
    readOne (UInt8.ofNat (v / 262144 % 8 + 0xF0))
        (following (v / 4096) :: following (v / 64) :: following v :: bytes) =
      (some (Char.ofNat v), bytes) := by
  obtain ⟨low, high, hlead, hsecond⟩ := lead?_four (v / 262144 % 8) (v / 4096 % 64)
    (by omega) (by omega) (by omega) (by omega)
  have hbits : ((v / 262144 % 8 * 64 + v / 4096 % 64) * 64 + v / 64 % 64) * 64 + v % 64 = v := by
    omega
  rw [readOne, hlead]
  dsimp only
  rw [readFollowing_succ hsecond.1 hsecond.2, readFollowing_succ_all, readFollowing_succ_all,
    readFollowing, hbits]

end

/-- The bytes of a character are read as it, whatever follows them. -/
theorem scan_utf8EncodeChar_append (c : Char) (bytes : List UInt8) :
    scan (String.utf8EncodeChar c ++ bytes) = some c :: scan bytes := by
  have hchar : Char.ofNat c.val.toNat = c := Char.ofNat_toNat c
  have hvalid : c.val.toNat < 0xD800 ∨ 0xDFFF < c.val.toNat ∧ c.val.toNat < 0x110000 := c.valid
  rw [String.utf8EncodeChar]
  generalize c.val.toNat = v at hchar hvalid
  by_cases hone : v ≤ 0x7F
  · simp only [if_pos hone, List.cons_append, List.nil_append]
    rw [scan, readOne_one bytes hone, hchar]
  by_cases htwo : v ≤ 0x7FF
  · simp only [if_neg hone, if_pos htwo, List.cons_append, List.nil_append]
    rw [scan, readOne_two bytes (by omega) htwo, hchar]
  by_cases hthree : v ≤ 0xFFFF
  · simp only [if_neg hone, if_neg htwo, if_pos hthree, List.cons_append, List.nil_append]
    rw [scan, readOne_three bytes (by omega) hthree (by omega), hchar]
  · simp only [if_neg hone, if_neg htwo, if_neg hthree, List.cons_append, List.nil_append]
    rw [scan, readOne_four bytes (by omega) (by omega), hchar]

/-! ## Whole texts -/

theorem scan_encode (s : List Char) : scan (encode s) = s.map some := by
  induction s with
  | nil => rw [encode, List.flatMap_nil, scan, List.map_nil]
  | cons c s ih =>
      rw [encode, List.flatMap_cons, scan_utf8EncodeChar_append, ← encode, ih, List.map_cons]

/-- The bytes of a text decode to it, and nothing in them is replaced. -/
theorem decodeLossy_encode (s : List Char) : decodeLossy (encode s) = s := by
  rw [decodeLossy, scan_encode, List.map_map]
  exact List.map_id s

end TerminalDecoration.Text.Utf8
