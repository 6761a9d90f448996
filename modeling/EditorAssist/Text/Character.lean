import EditorAssist.Text.WordTable
import EditorAssist.Text.HiddenTable

/-! # Classes of characters

Four classes decide how a source text is read: blanks, the ASCII characters of a name, the word
characters that settle where a word starts, and quotes.  A fifth one, the shown characters, decides
what a quoted text spells out.

* `isBlank`: the blanks of all scripts, line breaks and the four information separators included;
* `isNameChar`, `isNameStart`: ASCII letters, digits and the underscore, a digit never first;
* `isWordChar`: the name characters and every letter or number beyond ASCII;
* `isShown`: the characters that are written as they are. -/

namespace EditorAssist.Text

/-- The code lies in one of the runs. -/
def inRanges (ranges : List (Nat × Nat)) (code : Nat) : Bool :=
  ranges.any fun run => run.1 ≤ code && code ≤ run.2

/-- First and last code of each run of blanks, in ascending order. -/
def blankRanges : List (Nat × Nat) := [
  (0x09, 0x0D), (0x1C, 0x20), (0x85, 0x85), (0xA0, 0xA0), (0x1680, 0x1680), (0x2000, 0x200A),
  (0x2028, 0x2029), (0x202F, 0x202F), (0x205F, 0x205F), (0x3000, 0x3000)]

/-- A blank of any script.  The zero-width space and the byte order mark are not blanks. -/
def isBlank (c : Char) : Bool := inRanges blankRanges c.toNat

/-- The ASCII letters and the underscore. -/
def nameStartRanges : List (Nat × Nat) := [(0x41, 0x5A), (0x5F, 0x5F), (0x61, 0x7A)]

/-- A character that may open a name: an ASCII letter or the underscore. -/
def isNameStart (c : Char) : Bool := inRanges nameStartRanges c.toNat

/-- A character of a name: one that may open it, or an ASCII digit. -/
def isNameChar (c : Char) : Bool := inRanges ((0x30, 0x39) :: nameStartRanges) c.toNat

/-- A character of a word: a name character, or a letter or number beyond ASCII. -/
def isWordChar (c : Char) : Bool :=
  if c.toNat < 0x80 then isNameChar c else inRanges wordRanges c.toNat

/-- A quote of either kind. -/
def isQuote (c : Char) : Bool := c == '"' || c == '\''

/-- A character that a quoted text shows as it is. -/
def isShown (c : Char) : Bool :=
  if c.toNat < 0x80 then 0x20 ≤ c.toNat && c.toNat < 0x7F else !inRanges hiddenRanges c.toNat

/-! ### How the classes lie to each other -/

/-- The codes of the blanks, one by one. -/
def blankCodes : List Nat := [
  0x09, 0x0A, 0x0B, 0x0C, 0x0D, 0x1C, 0x1D, 0x1E, 0x1F, 0x20, 0x85, 0xA0, 0x1680, 0x2000, 0x2001,
  0x2002, 0x2003, 0x2004, 0x2005, 0x2006, 0x2007, 0x2008, 0x2009, 0x200A, 0x2028, 0x2029, 0x202F,
  0x205F, 0x3000]

theorem isBlank_iff {c : Char} : isBlank c = true ↔ c.toNat ∈ blankCodes := by
  simp [isBlank, inRanges, blankRanges, blankCodes]
  omega

theorem isWordChar_ofNat_of_mem_blankCodes :
    ∀ n ∈ blankCodes, isWordChar (Char.ofNat n) = false := by
  decide +kernel

/-- No blank is part of a word. -/
theorem isWordChar_eq_false_of_isBlank {c : Char} (h : isBlank c = true) :
    isWordChar c = false := by
  have := isWordChar_ofNat_of_mem_blankCodes c.toNat (isBlank_iff.mp h)
  rwa [Char.ofNat_toNat] at this

theorem toNat_lt_of_isNameChar {c : Char} (h : isNameChar c = true) : c.toNat < 0x80 := by
  simp [isNameChar, inRanges, nameStartRanges] at h
  omega

/-- A character that may open a name may stand anywhere in it. -/
theorem isNameChar_of_isNameStart {c : Char} (h : isNameStart c = true) : isNameChar c = true := by
  simp only [isNameStart, inRanges] at h
  simp only [isNameChar, inRanges, List.any_cons, h, Bool.or_true]

/-- Every name character is part of a word. -/
theorem isWordChar_of_isNameChar {c : Char} (h : isNameChar c = true) : isWordChar c = true := by
  rw [isWordChar, if_pos (toNat_lt_of_isNameChar h), h]

/-- No blank is part of a name. -/
theorem isNameChar_eq_false_of_isBlank {c : Char} (h : isBlank c = true) :
    isNameChar c = false := by
  cases hc : isNameChar c with
  | false => rfl
  | true =>
    have := isWordChar_eq_false_of_isBlank h
    rw [isWordChar_of_isNameChar hc] at this
    exact this

/-! ### Word starts -/

/-- A word may start after this character, or at the start of the text. -/
def startsWord : Option Char → Bool
  | none => true
  | some before => !isWordChar before

end EditorAssist.Text
