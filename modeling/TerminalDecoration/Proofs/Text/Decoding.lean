/-
# What bytes are read as

Reading is the inverse of encoding: bytes are a text exactly if they are the bytes of this text.
Other bytes are read lossily. Where no character stands, the longest part that begins the bytes of
some character is replaced, or a single byte if none begins with it. So a replaced part ends before
the first byte that rules every character out.
-/

import Mathlib.Tactic.SplitIfs
import TerminalDecoration.Proofs.Text.Utf8

namespace TerminalDecoration.Text.Utf8

/-! ## The bytes of a character number -/

section

variable {v : Nat}

theorem toNat_val_ofNat (h : v < 0xD800 ∨ 0xDFFF < v ∧ v < 0x110000) :
    (Char.ofNat v).val.toNat = v := by
  have hvalid : v.isValidChar := h
  rw [Char.ofNat, dif_pos hvalid]
  rfl

theorem utf8EncodeChar_one (h : v ≤ 0x7F) :
    String.utf8EncodeChar (Char.ofNat v) = [UInt8.ofNat v] := by
  rw [String.utf8EncodeChar, toNat_val_ofNat (by omega)]
  simp only [if_pos h]

theorem utf8EncodeChar_two (hlow : 0x7F < v) (hhigh : v ≤ 0x7FF) :
    String.utf8EncodeChar (Char.ofNat v) =
      [UInt8.ofNat (v / 64 % 32 + 0xC0), following v] := by
  have hone : ¬ v ≤ 0x7F := by omega
  rw [String.utf8EncodeChar, toNat_val_ofNat (by omega)]
  simp only [if_neg hone, if_pos hhigh]

theorem utf8EncodeChar_three (hlow : 0x7FF < v) (hhigh : v ≤ 0xFFFF)
    (hsurrogate : v < 0xD800 ∨ 0xDFFF < v) :
    String.utf8EncodeChar (Char.ofNat v) =
      [UInt8.ofNat (v / 4096 % 16 + 0xE0), following (v / 64), following v] := by
  have hone : ¬ v ≤ 0x7F := by omega
  have htwo : ¬ v ≤ 0x7FF := by omega
  rw [String.utf8EncodeChar, toNat_val_ofNat (by omega)]
  simp only [if_neg hone, if_neg htwo, if_pos hhigh]

theorem utf8EncodeChar_four (hlow : 0xFFFF < v) (hhigh : v < 0x110000) :
    String.utf8EncodeChar (Char.ofNat v) =
      [UInt8.ofNat (v / 262144 % 8 + 0xF0), following (v / 4096), following (v / 64),
        following v] := by
  have hone : ¬ v ≤ 0x7F := by omega
  have htwo : ¬ v ≤ 0x7FF := by omega
  have hthree : ¬ v ≤ 0xFFFF := by omega
  rw [String.utf8EncodeChar, toNat_val_ofNat (by omega)]
  simp only [if_neg hone, if_neg htwo, if_neg hthree]

end

/-! ## What is read -/

/-- Which characters a byte can begin: the number of bytes that follow, the first bits, and the range
that is left to the second byte. -/
theorem lead?_eq_some {b : UInt8} {lead : Lead} (h : lead? b = some lead) :
    (0x80 ≤ lead.low.toNat ∧ lead.low.toNat ≤ lead.high.toNat ∧ lead.high.toNat ≤ 0xBF) ∧
      ((lead.following = 0 ∧ b.toNat = lead.bits ∧ lead.bits < 0x80) ∨
        (lead.following = 1 ∧ b.toNat = lead.bits + 0xC0 ∧ 2 ≤ lead.bits ∧ lead.bits < 32) ∨
        (lead.following = 2 ∧ b.toNat = lead.bits + 0xE0 ∧ lead.bits < 16 ∧
          (lead.bits = 0 → 0xA0 ≤ lead.low.toNat) ∧ (lead.bits = 13 → lead.high.toNat ≤ 0x9F)) ∨
        (lead.following = 3 ∧ b.toNat = lead.bits + 0xF0 ∧ lead.bits < 5 ∧
          (lead.bits = 0 → 0x90 ≤ lead.low.toNat) ∧ (lead.bits = 4 → lead.high.toNat ≤ 0x8F))) := by
  rw [lead?] at h
  simp only [UInt8.lt_iff_toNat_lt, ← UInt8.toNat_inj, UInt8.reduceToNat] at h
  split_ifs at h <;> simp only [Option.some.injEq] at h <;> subst h <;> simp <;> omega

/-- A byte in a range for the bytes behind the first carries six bits. -/
theorem exists_following_eq {low high b : UInt8} (hlow : 0x80 ≤ low.toNat)
    (hhigh : high.toNat ≤ 0xBF) (h : low ≤ b ∧ b ≤ high) :
    ∃ more, more < 64 ∧ b = following more ∧ b.toNat = more + 0x80 := by
  rw [UInt8.le_iff_toNat_le, UInt8.le_iff_toNat_le] at h
  have hmore : (b.toNat - 0x80) % 64 + 0x80 = b.toNat := by omega
  refine ⟨b.toNat - 0x80, by omega, ?_, by omega⟩
  rw [← UInt8.toNat_inj, toNat_following, hmore]

/-- What is read behind the first byte begins with a byte in range. -/
theorem exists_of_readFollowing_succ {count : Nat} {low high : UInt8} {bits : Nat}
    {bytes rest : List UInt8} {c : Char} (hlow : 0x80 ≤ low.toNat) (hhigh : high.toNat ≤ 0xBF)
    (h : readFollowing (count + 1) low high bits bytes = (some c, rest)) :
    ∃ more bytes', more < 64 ∧ low.toNat ≤ more + 0x80 ∧ more + 0x80 ≤ high.toNat ∧
      bytes = following more :: bytes' ∧
      readFollowing count 0x80 0xBF (bits * 64 + more) bytes' = (some c, rest) := by
  cases bytes with
  | nil => cases h
  | cons b bytes =>
      rw [readFollowing] at h
      split at h
      · rename_i hrange
        obtain ⟨more, hmore, hb, hbits⟩ := exists_following_eq hlow hhigh hrange
        rw [UInt8.le_iff_toNat_le, UInt8.le_iff_toNat_le, hbits] at hrange
        rw [hbits, Nat.add_sub_cancel] at h
        exact ⟨more, bytes, hmore, hrange.1, hrange.2, by rw [hb], h⟩
      · cases h

/-- The same where the range is not narrowed. -/
theorem exists_of_readFollowing_succ_all {count bits : Nat} {bytes rest : List UInt8} {c : Char}
    (h : readFollowing (count + 1) 0x80 0xBF bits bytes = (some c, rest)) :
    ∃ more bytes', more < 64 ∧ bytes = following more :: bytes' ∧
      readFollowing count 0x80 0xBF (bits * 64 + more) bytes' = (some c, rest) := by
  obtain ⟨more, bytes', hmore, -, -, hbytes, hrest⟩ :=
    exists_of_readFollowing_succ (by decide) (by decide) h
  exact ⟨more, bytes', hmore, hbytes, hrest⟩

theorem eq_of_readFollowing_zero {low high : UInt8} {bits : Nat} {bytes rest : List UInt8}
    {c : Char} (h : readFollowing 0 low high bits bytes = (some c, rest)) :
    c = Char.ofNat bits ∧ bytes = rest := by
  rw [readFollowing] at h
  cases h
  exact ⟨rfl, rfl⟩

theorem eq_ofNat_of_toNat_eq {b : UInt8} {n : Nat} (h : b.toNat = n) : b = UInt8.ofNat n := by
  rw [← h, UInt8.ofNat_toNat]

theorem following_eq_of_mod_eq {m n : Nat} (h : m % 64 = n % 64) : following m = following n := by
  rw [following, following, h]

/-- A character is read from its own bytes only. -/
theorem eq_append_of_readOne {b : UInt8} {bytes rest : List UInt8} {c : Char}
    (h : readOne b bytes = (some c, rest)) : b :: bytes = String.utf8EncodeChar c ++ rest := by
  rw [readOne] at h
  split at h
  · cases h
  rename_i lead hlead
  obtain ⟨⟨hlow, -, hhigh⟩, ⟨hcount, hb, hbits⟩ | ⟨hcount, hb, hbits⟩ | ⟨hcount, hb, hbits⟩ |
    ⟨hcount, hb, hbits⟩⟩ := lead?_eq_some hlead
  · rw [hcount] at h
    obtain ⟨rfl, rfl⟩ := eq_of_readFollowing_zero h
    rw [utf8EncodeChar_one (by omega), eq_ofNat_of_toNat_eq hb]
    rfl
  · rw [hcount] at h
    obtain ⟨m, bytes₁, hm, -, -, rfl, h₁⟩ := exists_of_readFollowing_succ hlow hhigh h
    obtain ⟨rfl, rfl⟩ := eq_of_readFollowing_zero h₁
    have hfirst : (lead.bits * 64 + m) / 64 % 32 = lead.bits := by omega
    have hsecond : following (lead.bits * 64 + m) = following m := following_eq_of_mod_eq (by omega)
    rw [utf8EncodeChar_two (by omega) (by omega), hfirst, hsecond, eq_ofNat_of_toNat_eq hb]
    rfl
  · rw [hcount] at h
    obtain ⟨m, bytes₁, hm, hleast, hmost, rfl, h₁⟩ := exists_of_readFollowing_succ hlow hhigh h
    obtain ⟨m', bytes₂, hm', rfl, h₂⟩ := exists_of_readFollowing_succ_all h₁
    obtain ⟨rfl, rfl⟩ := eq_of_readFollowing_zero h₂
    generalize hv : (lead.bits * 64 + m) * 64 + m' = v
    have hfirst : v / 4096 % 16 = lead.bits := by omega
    have hsecond : following (v / 64) = following m := following_eq_of_mod_eq (by omega)
    have hthird : following v = following m' := following_eq_of_mod_eq (by omega)
    rw [utf8EncodeChar_three (by omega) (by omega) (by omega), hfirst, hsecond, hthird,
      eq_ofNat_of_toNat_eq hb]
    rfl
  · rw [hcount] at h
    obtain ⟨m, bytes₁, hm, hleast, hmost, rfl, h₁⟩ := exists_of_readFollowing_succ hlow hhigh h
    obtain ⟨m', bytes₂, hm', rfl, h₂⟩ := exists_of_readFollowing_succ_all h₁
    obtain ⟨m'', bytes₃, hm'', rfl, h₃⟩ := exists_of_readFollowing_succ_all h₂
    obtain ⟨rfl, rfl⟩ := eq_of_readFollowing_zero h₃
    generalize hv : ((lead.bits * 64 + m) * 64 + m') * 64 + m'' = v
    have hfirst : v / 262144 % 8 = lead.bits := by omega
    have hsecond : following (v / 4096) = following m := following_eq_of_mod_eq (by omega)
    have hthird : following (v / 64) = following m' := following_eq_of_mod_eq (by omega)
    have hfourth : following v = following m'' := following_eq_of_mod_eq (by omega)
    rw [utf8EncodeChar_four (by omega) (by omega), hfirst, hsecond, hthird, hfourth,
      eq_ofNat_of_toNat_eq hb]
    rfl

/-! ## Ill-formed parts -/

/-- The bytes are the first of some character. -/
def BeginsCharacter (part : List UInt8) : Prop := ∃ c, part <+: String.utf8EncodeChar c

/-- No character stands before the rest, but a part that is the longest to begin one, or a single
byte if none begins with it. -/
structure IsIllFormed (part rest : List UInt8) : Prop where
  ne_nil : part ≠ []
  no_character : ∀ c, ¬ String.utf8EncodeChar c <+: part ++ rest
  begins : BeginsCharacter part ∨ part.length = 1
  longest : ∀ b ∈ rest.head?, ¬ BeginsCharacter (part ++ [b])

namespace IsIllFormed

variable {part rest part' rest' : List UInt8}

theorem eq_of_prefix (h : IsIllFormed part rest) (h' : IsIllFormed part' rest')
    (heq : part ++ rest = part' ++ rest') (hpart : part <+: part') : part = part' := by
  obtain ⟨more, rfl⟩ := hpart
  cases more with
  | nil => exact (List.append_nil part).symm
  | cons b more =>
      exfalso
      rw [List.append_assoc, List.append_cancel_left_eq, List.cons_append] at heq
      have hb : b ∈ rest.head? := by rw [heq]; rfl
      rcases h'.begins with ⟨c, hc⟩ | hlength
      · refine h.longest b hb ⟨c, .trans ?_ hc⟩
        exact (List.prefix_append_right_inj part).2 (List.prefix_append [b] more)
      · have hpos := List.length_pos_iff.2 h.ne_nil
        rw [List.length_append, List.length_cons] at hlength
        omega

/-- There is only one such part. -/
theorem eq_of_append_eq (h : IsIllFormed part rest) (h' : IsIllFormed part' rest')
    (heq : part ++ rest = part' ++ rest') : part = part' := by
  have hprefix : part' <+: part ++ rest := heq ▸ List.prefix_append part' rest'
  obtain hle | hle := List.prefix_or_prefix_of_prefix (List.prefix_append part rest) hprefix
  · exact h.eq_of_prefix h' heq hle
  · exact (h'.eq_of_prefix h heq.symm hle).symm

end IsIllFormed

/-- No range for a byte to come is empty, so characters begin with what was read so far. -/
theorem exists_readFollowing_eq_some (count : Nat) {low high : UInt8} (hrange : low ≤ high)
    (bits : Nat) : ∃ more c, readFollowing count low high bits more = (some c, []) := by
  induction count generalizing low high bits with
  | zero => exact ⟨[], Char.ofNat bits, rfl⟩
  | succ count ih =>
      obtain ⟨more, c, hread⟩ := @ih 0x80 0xBF (by decide) (bits * 64 + (low.toNat - 0x80))
      refine ⟨low :: more, c, ?_⟩
      rw [readFollowing, if_pos ⟨UInt8.le_refl low, hrange⟩, hread]

/-- Where the bytes behind the first break off, what was read can still be completed, but not with
the byte that comes next. -/
theorem exists_of_readFollowing_eq_none {count : Nat} {low high : UInt8} (hrange : low ≤ high)
    {bits : Nat} {bytes rest : List UInt8}
    (h : readFollowing count low high bits bytes = (none, rest)) :
    ∃ part, bytes = part ++ rest ∧
      (∃ more c, readFollowing count low high bits (part ++ more) = (some c, [])) ∧
      ∀ b ∈ rest.head?, ∀ more,
        (readFollowing count low high bits (part ++ b :: more)).1 = none := by
  induction count generalizing low high bits bytes with
  | zero => cases h
  | succ count ih =>
      cases bytes with
      | nil =>
          cases h
          exact ⟨[], rfl, exists_readFollowing_eq_some _ hrange bits, fun b hb => nomatch hb⟩
      | cons b bytes =>
          rw [readFollowing] at h
          split at h
          · rename_i hb
            obtain ⟨part, rfl, ⟨more, c, hread⟩, hnext⟩ := ih (by decide) h
            refine ⟨b :: part, rfl, ⟨more, c, ?_⟩, fun b' hb' more => ?_⟩
            · rw [List.cons_append, readFollowing, if_pos hb, hread]
            · rw [List.cons_append, readFollowing, if_pos hb]
              exact hnext b' hb' more
          · rename_i hb
            cases h
            refine ⟨[], rfl, exists_readFollowing_eq_some _ hrange bits, fun b' hb' more => ?_⟩
            cases hb'
            rw [List.nil_append, readFollowing, if_neg hb]

/-- Before anything else a character is read from its bytes. -/
theorem readOne_of_prefix {b : UInt8} {bytes : List UInt8} {c : Char}
    (h : String.utf8EncodeChar c <+: b :: bytes) : (readOne b bytes).1 = some c := by
  obtain ⟨rest, h⟩ := h
  have hscan := scan_utf8EncodeChar_append c rest
  rw [h, scan] at hscan
  exact (List.cons.inj hscan).1

/-- With bytes from which nothing is read no character begins. -/
theorem not_beginsCharacter {b : UInt8} {bytes : List UInt8}
    (h : ∀ more, (readOne b (bytes ++ more)).1 = none) : ¬ BeginsCharacter (b :: bytes) := by
  rintro ⟨c, more, hc⟩
  have hread : (readOne b (bytes ++ more)).1 = some c :=
    readOne_of_prefix (hc ▸ List.prefix_refl _)
  rw [h more] at hread
  cases hread

/-- Where no character is read, an ill-formed part is passed over. -/
theorem exists_isIllFormed_of_readOne {b : UInt8} {bytes rest : List UInt8}
    (h : readOne b bytes = (none, rest)) :
    ∃ part, b :: bytes = part ++ rest ∧ IsIllFormed part rest := by
  have hnone (c : Char) : ¬ String.utf8EncodeChar c <+: b :: bytes := by
    intro hc
    have hread := readOne_of_prefix hc
    rw [h] at hread
    cases hread
  cases hlead : lead? b with
  | none =>
      have hnever (bytes : List UInt8) : readOne b bytes = (none, bytes) := by
        rw [readOne, hlead]
      cases (hnever bytes).symm.trans h
      refine ⟨[b], rfl, List.cons_ne_nil b [], hnone, .inr rfl, fun b' _ => ?_⟩
      exact not_beginsCharacter fun more => congrArg Prod.fst (hnever _)
  | some lead =>
      have hread (bytes : List UInt8) : readOne b bytes =
          readFollowing lead.following lead.low lead.high lead.bits bytes := by
        rw [readOne, hlead]
      rw [hread] at h
      have hrange : lead.low ≤ lead.high := (UInt8.le_iff_toNat_le ..).2 (lead?_eq_some hlead).1.2.1
      obtain ⟨part, rfl, ⟨more, c, hsome⟩, hnext⟩ := exists_of_readFollowing_eq_none hrange h
      refine ⟨b :: part, rfl, List.cons_ne_nil b part, hnone, .inl ⟨c, more, ?_⟩, fun b' hb' => ?_⟩
      · have hwhole := eq_append_of_readOne ((hread (part ++ more)).trans hsome)
        rw [List.append_nil] at hwhole
        exact hwhole
      · show ¬ BeginsCharacter (b :: (part ++ [b']))
        apply not_beginsCharacter
        intro more
        rw [hread, List.append_assoc]
        exact hnext b' hb' more

/-! ## Whole texts -/

/-- The bytes are read as the text: a character from its bytes, and a replacement character from
each ill-formed part where no character stands. -/
inductive IsReadAs : List UInt8 → List Char → Prop where
  | nil : IsReadAs [] []
  | char (c : Char) {bytes : List UInt8} {s : List Char} (h : IsReadAs bytes s) :
    IsReadAs (String.utf8EncodeChar c ++ bytes) (c :: s)
  | illFormed {part rest : List UInt8} {s : List Char} (hpart : IsIllFormed part rest)
    (h : IsReadAs rest s) : IsReadAs (part ++ rest) (replacement :: s)

theorem isReadAs_decodeLossy (bytes : List UInt8) : IsReadAs bytes (decodeLossy bytes) := by
  rw [decodeLossy]
  fun_induction scan bytes with
  | case1 => exact .nil
  | case2 b bytes ih =>
      rw [List.map_cons]
      cases hread : readOne b bytes with
      | mk c? rest =>
          rw [hread] at ih
          cases c? with
          | some c =>
              rw [eq_append_of_readOne hread]
              exact .char c ih
          | none =>
              obtain ⟨part, heq, hpart⟩ := exists_isIllFormed_of_readOne hread
              rw [heq]
              exact .illFormed hpart ih

/-- An ill-formed part is passed over as a whole. -/
theorem IsIllFormed.scan_append {part rest : List UInt8} (h : IsIllFormed part rest) :
    scan (part ++ rest) = none :: scan rest := by
  obtain ⟨b, part, rfl⟩ := List.exists_cons_of_ne_nil h.ne_nil
  rw [List.cons_append, scan]
  cases hread : readOne b (part ++ rest) with
  | mk c? rest' =>
      cases c? with
      | some c =>
          have hwhole := eq_append_of_readOne hread
          exact absurd ⟨rest', hwhole.symm⟩ (h.no_character c)
      | none =>
          obtain ⟨part', heq, hpart'⟩ := exists_isIllFormed_of_readOne hread
          rw [← List.cons_append] at heq
          cases h.eq_of_append_eq hpart' heq
          rw [List.append_cancel_left heq]

/-- Bytes are read as one text, which is the one that lossy decoding gives. -/
theorem isReadAs_iff {bytes : List UInt8} {s : List Char} :
    IsReadAs bytes s ↔ s = decodeLossy bytes := by
  constructor
  · intro h
    induction h with
    | nil => rw [decodeLossy, scan, List.map_nil]
    | char c _ ih => rw [ih, decodeLossy, decodeLossy, scan_utf8EncodeChar_append]; rfl
    | illFormed hpart _ ih => rw [ih, decodeLossy, decodeLossy, hpart.scan_append]; rfl
  · rintro rfl
    exact isReadAs_decodeLossy bytes

theorem mapM_id_eq_some_iff {α : Type} {l : List (Option α)} {xs : List α} :
    l.mapM id = some xs ↔ l = xs.map some := by
  induction l generalizing xs with
  | nil => cases xs <;> simp
  | cons x? l ih =>
      cases x? with
      | none => cases xs <;> simp
      | some x =>
          cases xs with
          | nil => simp [Option.bind_eq_some_iff]
          | cons y ys => simpa [Option.bind_eq_some_iff, ih] using And.comm

/-- Bytes are a text exactly if they are its encoding. -/
theorem decode?_eq_some_iff {bytes : List UInt8} {s : List Char} :
    decode? bytes = some s ↔ bytes = encode s := by
  rw [decode?, mapM_id_eq_some_iff]
  constructor
  · intro h
    fun_induction scan bytes generalizing s with
    | case1 =>
        rw [List.map_eq_nil_iff.1 h.symm]
        rfl
    | case2 b bytes ih =>
        obtain ⟨c, s, rfl, hc, hs⟩ := List.map_eq_cons_iff.1 h.symm
        have hread : readOne b bytes = (some c, (readOne b bytes).2) := Prod.ext hc.symm rfl
        rw [eq_append_of_readOne hread, ih hs.symm]
        rfl
  · rintro rfl
    exact scan_encode s

/-- A sequence that is broken off is replaced once, and each byte of a form that is too long. -/
example : decodeLossy [0x61, 0xE2, 0x82, 0x62, 0xC0, 0x80] =
    ['a', replacement, 'b', replacement, replacement] := by
  decide +kernel

end TerminalDecoration.Text.Utf8
