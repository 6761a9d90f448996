import Mathlib.Algebra.Group.Nat.Defs
import EditorAssist.Location.Percent

/-! # Escapes that are read back

A text is written with escapes byte by byte: its characters are encoded as UTF-8, and each byte
stands for itself or is escaped.  Reading undoes both steps.

* `readPieces_tails`: the bytes that go on a character are read until its code is whole;
* `readPieces_utf8EncodeChar`: the bytes of a character are read as that character;
* `Escapes.pieces`: an escaped text has the bytes that were written;
* `unescape_of_escapes`: an escaped text stands for the text that was written. -/

namespace EditorAssist.Location

open Text Utf8

/-! ### UTF-8 -/

/-- The last `count` bytes of a code, which hold six bits each. -/
def tails (code : Nat) : Nat → List Nat
  | 0 => []
  | count + 1 => (code / 64 ^ count % 64 + 0x80) :: tails code count

/-- Six more bits of a code. -/
theorem div_pow_succ (code count : Nat) :
    code / 64 ^ (count + 1) * 64 + code / 64 ^ count % 64 = code / 64 ^ count := by
  rw [Nat.pow_succ, ← Nat.div_div_eq_div_mul]
  omega

theorem step_inside {code missing least most byte : Nat} (hlow : least ≤ byte)
    (hhigh : byte ≤ most) :
    step (.inside code missing least most) byte =
      if missing ≤ 1 then ([Char.ofNat (code * 64 + (byte - 0x80))], .between)
      else ([], .inside (code * 64 + (byte - 0x80)) (missing - 1) 0x80 0xBF) := by
  simp [step, hlow, hhigh]

/-- Inside a character the reader has the high bits of its code, and takes the rest from the bytes
to come.  Only the first of them can be bounded more narrowly. -/
theorem readPieces_tails (code : Nat) (rest : List Piece) (count : Nat) {least most : Nat}
    (hlow : least ≤ code / 64 ^ count % 64 + 0x80)
    (hhigh : code / 64 ^ count % 64 + 0x80 ≤ most) :
    readPieces (.inside (code / 64 ^ (count + 1)) (count + 1) least most)
      ((tails code (count + 1)).map .byte ++ rest) = Char.ofNat code :: readPieces .between rest := by
  induction count generalizing least most with
  | zero =>
      have hcode := div_pow_succ code 0
      rw [tails, List.map_cons, List.cons_append, readPieces, step_inside hlow hhigh,
        if_pos (by omega), Nat.add_sub_cancel, hcode, Nat.pow_zero, Nat.div_one]
      rfl
  | succ count ih =>
      have hcode := div_pow_succ code (count + 1)
      rw [tails, List.map_cons, List.cons_append, readPieces, step_inside hlow hhigh,
        if_neg (by omega), Nat.add_sub_cancel, Nat.add_sub_cancel, hcode, List.nil_append]
      have hmod : code / 64 ^ count % 64 < 64 := Nat.mod_lt _ (by decide)
      exact ih (by omega) (by omega)

/-! ### The first byte of a character -/

theorem first_two {code : Nat} (hlow : 0x80 ≤ code) (hhigh : code ≤ 0x7FF) :
    first (code / 64 % 0x20 + 0xC0) = ([], .inside (code / 64) 1 0x80 0xBF) := by
  have hlead : code / 64 % 0x20 = code / 64 := by omega
  unfold first
  rw [hlead, if_neg (by omega), if_neg (by omega), if_pos (by omega), Nat.add_sub_cancel]

theorem first_three {code : Nat} (hlow : 0x7FF < code) (hhigh : code ≤ 0xFFFF)
    (hscalar : code < 0xD800 ∨ 0xDFFF < code) :
    ∃ least most, first (code / 4096 % 0x10 + 0xE0) = ([], .inside (code / 4096) 2 least most) ∧
      least ≤ code / 64 % 64 + 0x80 ∧ code / 64 % 64 + 0x80 ≤ most := by
  have hlead : code / 4096 % 0x10 = code / 4096 := by omega
  rw [hlead]
  by_cases hzero : code / 4096 = 0
  · exact ⟨0xA0, 0xBF, by rw [hzero]; rfl, by omega, by omega⟩
  · by_cases hsurrogates : code / 4096 = 0xD
    · exact ⟨0x80, 0x9F, by rw [hsurrogates]; rfl, by omega, by omega⟩
    · refine ⟨0x80, 0xBF, ?_, by omega, by omega⟩
      unfold first
      rw [if_neg (by omega), if_neg (by omega), if_neg (by omega), if_neg (by omega),
        if_neg (by omega), if_pos (by omega), Nat.add_sub_cancel]

theorem first_four {code : Nat} (hlow : 0xFFFF < code) (hhigh : code < 0x110000) :
    ∃ least most, first (code / 262144 % 0x08 + 0xF0) = ([], .inside (code / 262144) 3 least most) ∧
      least ≤ code / 4096 % 64 + 0x80 ∧ code / 4096 % 64 + 0x80 ≤ most := by
  have hlead : code / 262144 % 0x08 = code / 262144 := by omega
  rw [hlead]
  by_cases hzero : code / 262144 = 0
  · exact ⟨0x90, 0xBF, by rw [hzero]; rfl, by omega, by omega⟩
  · by_cases hlast : code / 262144 = 4
    · exact ⟨0x80, 0x8F, by rw [hlast]; rfl, by omega, by omega⟩
    · refine ⟨0x80, 0xBF, ?_, by omega, by omega⟩
      unfold first
      rw [if_neg (by omega), if_neg (by omega), if_neg (by omega), if_neg (by omega),
        if_neg (by omega), if_neg (by omega), if_neg (by omega), if_pos (by omega),
        Nat.add_sub_cancel]

/-- A character beyond ASCII is encoded as a first byte that says how many are to come, and those
bytes. -/
theorem exists_first_tails {c : Char} (h : 0x80 ≤ c.toNat) :
    ∃ lead count least most,
      (String.utf8EncodeChar c).map UInt8.toNat = lead :: tails c.toNat (count + 1) ∧
      first lead = ([], .inside (c.toNat / 64 ^ (count + 1)) (count + 1) least most) ∧
      least ≤ c.toNat / 64 ^ count % 64 + 0x80 ∧ c.toNat / 64 ^ count % 64 + 0x80 ≤ most := by
  have hvalid : c.toNat < 0xD800 ∨ 0xDFFF < c.toNat ∧ c.toNat < 0x110000 := c.valid
  have hcode : c.val.toNat = c.toNat := rfl
  rw [String.utf8EncodeChar, hcode, if_neg (by omega)]
  by_cases htwo : c.toNat ≤ 0x7FF
  · refine ⟨_, 0, 0x80, 0xBF, ?_, first_two h htwo, by omega, by omega⟩
    rw [if_pos htwo]
    simp only [List.map_cons, List.map_nil, UInt8.toNat_ofNat', tails, Nat.reducePow, Nat.div_one,
      List.cons.injEq, and_true]
    omega
  · rw [if_neg htwo]
    by_cases hthree : c.toNat ≤ 0xFFFF
    · obtain ⟨least, most, hfirst, hlow, hhigh⟩ :=
        first_three (by omega) hthree (hvalid.imp_right fun hafter => hafter.1)
      refine ⟨_, 1, least, most, ?_, hfirst, hlow, hhigh⟩
      rw [if_pos hthree]
      simp only [List.map_cons, List.map_nil, UInt8.toNat_ofNat', tails, Nat.reducePow, Nat.div_one,
        List.cons.injEq, and_true]
      omega
    · obtain ⟨least, most, hfirst, hlow, hhigh⟩ := first_four (Nat.lt_of_not_le hthree) (by omega)
      refine ⟨_, 2, least, most, ?_, hfirst, hlow, hhigh⟩
      rw [if_neg hthree]
      simp only [List.map_cons, List.map_nil, UInt8.toNat_ofNat', tails, Nat.reducePow, Nat.div_one,
        List.cons.injEq, and_true]
      omega

/-- The piece of an escaped text that a byte is. -/
def Piece.ofByte (byte : UInt8) : Piece := .byte byte.toNat

/-- The bytes of a character are read as that character. -/
theorem readPieces_utf8EncodeChar (c : Char) (rest : List Piece) :
    readPieces .between ((String.utf8EncodeChar c).map .ofByte ++ rest) =
      c :: readPieces .between rest := by
  have hpieces : (String.utf8EncodeChar c).map Piece.ofByte =
      ((String.utf8EncodeChar c).map UInt8.toNat).map .byte := by
    rw [List.map_map]
    rfl
  rw [hpieces]
  by_cases h : c.toNat < 0x80
  · have hbytes : (String.utf8EncodeChar c).map UInt8.toNat = [c.toNat] := by
      have hcode : c.val.toNat = c.toNat := rfl
      rw [String.utf8EncodeChar, hcode, if_pos (by omega), List.map_singleton,
        UInt8.toNat_ofNat', Nat.mod_eq_of_lt (by omega)]
    rw [hbytes, List.map_singleton, List.singleton_append, readPieces, step, first, if_pos h,
      Char.ofNat_toNat]
    rfl
  · obtain ⟨lead, count, least, most, hbytes, hfirst, hlow, hhigh⟩ :=
      exists_first_tails (Nat.le_of_not_lt h)
    rw [hbytes, List.map_cons, List.cons_append, readPieces, step, hfirst, List.nil_append,
      readPieces_tails c.toNat rest count hlow hhigh, Char.ofNat_toNat]

/-- The bytes of a text are read as that text. -/
theorem readPieces_utf8 (text : List Char) :
    readPieces .between ((text.flatMap String.utf8EncodeChar).map .ofByte) = text := by
  induction text with
  | nil => rfl
  | cons c text ih =>
      rw [List.flatMap_cons, List.map_append, readPieces_utf8EncodeChar, ih]

theorem toUTF8_toList (text : String) :
    text.toUTF8.data.toList = text.toList.flatMap String.utf8EncodeChar := by
  rw [String.toUTF8_eq_toByteArray, ← String.utf8Encode_toList, List.utf8Encode]
  simp

/-! ### Escapes -/

/-- A character that an escaped text holds as it is. -/
def isKept (c : Char) : Bool :=
  c.isAlphanum || c == '_' || c == '.' || c == '-' || c == '~' || c == '/'

/-- The digit stands for the value in hexadecimal, in lower or in upper case. -/
def SpellsHex (digit : Char) (value : Nat) : Prop :=
  digit = value.digitChar ∨ digit = value.digitChar.toUpper

/-- The text holds the bytes, each as it is if it may be kept, and else as a percent sign and two
hexadecimal digits. -/
inductive Escapes : List UInt8 → List Char → Prop
  | nil : Escapes [] []
  | kept {byte : UInt8} {bytes : List UInt8} {text : List Char} :
      isKept (Char.ofUInt8 byte) = true → Escapes bytes text →
      Escapes (byte :: bytes) (Char.ofUInt8 byte :: text)
  | escaped {byte : UInt8} {high low : Char} {bytes : List UInt8} {text : List Char} :
      isKept (Char.ofUInt8 byte) = false → SpellsHex high (byte.toNat / 16) →
      SpellsHex low (byte.toNat % 16) → Escapes bytes text →
      Escapes (byte :: bytes) ('%' :: high :: low :: text)

/-- Hexadecimal digits are read as their values, and are characters that are kept. -/
theorem SpellsHex.hexValue? {digit : Char} {value : Nat} (h : SpellsHex digit value)
    (hvalue : value < 16) : Text.hexValue? digit = some value ∧ isKept digit = true := by
  have hlower : ∀ v : Fin 16, Text.hexValue? (Nat.digitChar v) = some v.val ∧
      isKept (Nat.digitChar v) = true := by
    decide
  have hupper : ∀ v : Fin 16, Text.hexValue? (Nat.digitChar v).toUpper = some v.val ∧
      isKept (Nat.digitChar v).toUpper = true := by
    decide
  rcases h with rfl | rfl
  · exact hlower ⟨value, hvalue⟩
  · exact hupper ⟨value, hvalue⟩

theorem toNat_lt_of_isKept {c : Char} (h : isKept c = true) : c.toNat < 0x80 := by
  have hcode : c.toNat = c.val.toNat := rfl
  unfold isKept Char.isAlphanum Char.isAlpha Char.isUpper Char.isLower Char.isDigit at h
  simp only [Bool.or_eq_true, Bool.and_eq_true, decide_eq_true_eq, beq_iff_eq, ge_iff_le,
    UInt32.le_iff_toNat_le, Char.reduceVal, UInt32.reduceToNat, Char.ext_iff,
    ← UInt32.toNat_inj] at h
  omega

theorem pieces_cons_of_ne {c : Char} (h : c ≠ '%') (text : List Char) :
    pieces (c :: text) = Piece.ofChar c :: pieces text := by
  rw [pieces]
  rintro high low rest rfl
  exact absurd rfl h

/-- An escaped text has the bytes that were written. -/
theorem Escapes.pieces {bytes : List UInt8} {text : List Char} (h : Escapes bytes text) :
    Location.pieces text = bytes.map .ofByte := by
  induction h with
  | nil => rfl
  | @kept byte bytes text hkept _ ih =>
      have hne : Char.ofUInt8 byte ≠ '%' := by
        intro e
        rw [e] at hkept
        exact absurd hkept (by decide)
      have hcode : (Char.ofUInt8 byte).toNat = byte.toNat := rfl
      rw [pieces_cons_of_ne hne, Piece.ofChar, if_pos (toNat_lt_of_isKept hkept), ih, hcode]
      rfl
  | @escaped byte high low bytes text _ hhigh hlow _ ih =>
      have hbyte : byte.toNat < 256 := byte.toNat_lt
      have hescape : escape? high low = some byte.toNat := by
        rw [escape?, (hhigh.hexValue? (by omega)).1, (hlow.hexValue? (by omega)).1]
        dsimp only
        rw [Nat.div_add_mod]
      rw [Location.pieces, hescape, ih]
      rfl

/-- **An escaped text stands for the text that was written.** -/
theorem unescape_of_escapes {path : String} {text : List Char}
    (h : Escapes path.toUTF8.data.toList text) : unescape text = path.toList := by
  rw [unescape, h.pieces, toUTF8_toList, readPieces_utf8]

/-- An escaped text has only characters that are kept, and percent signs. -/
theorem Escapes.isKept_or {bytes : List UInt8} {text : List Char} (h : Escapes bytes text) :
    ∀ c ∈ text, isKept c = true ∨ c = '%' := by
  induction h with
  | nil => simp
  | kept hkept _ ih => exact List.forall_mem_cons.mpr ⟨.inl hkept, ih⟩
  | @escaped byte high low bytes text _ hhigh hlow _ ih =>
      have hbyte : byte.toNat < 256 := byte.toNat_lt
      have hkepthigh : isKept high = true := (hhigh.hexValue? (by omega)).2
      have hkeptlow : isKept low = true := (hlow.hexValue? (by omega)).2
      exact List.forall_mem_cons.mpr ⟨.inr rfl, List.forall_mem_cons.mpr ⟨.inl hkepthigh,
        List.forall_mem_cons.mpr ⟨.inl hkeptlow, ih⟩⟩⟩

/-- Every text can be escaped. -/
theorem exists_escapes (bytes : List UInt8) : ∃ text, Escapes bytes text := by
  induction bytes with
  | nil => exact ⟨[], .nil⟩
  | cons byte bytes ih =>
      obtain ⟨text, h⟩ := ih
      cases hkept : isKept (Char.ofUInt8 byte) with
      | true => exact ⟨_, .kept hkept h⟩
      | false => exact ⟨_, .escaped hkept (.inl rfl) (.inl rfl) h⟩

end EditorAssist.Location
