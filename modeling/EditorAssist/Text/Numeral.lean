import EditorAssist.Text.Digit
import EditorAssist.Text.Parts

/-! # Whole numbers as text

`padded` writes a number in decimal, filled up with zeros between the sign and the digits.
`readInt?` reads what a person may type for a number: blanks around it, a sign, digits of any script,
and single underscores between digits. -/

namespace EditorAssist.Text

/-- At least `width` decimal digits, zeros first. -/
def paddedNat (width n : Nat) : List Char :=
  let digits := Nat.toDigits 10 n
  List.replicate (width - digits.length) '0' ++ digits

/-- The number in decimal, filled with zeros to `width` characters, of which the sign is one. -/
def padded (width : Nat) (n : Int) : String :=
  match n with
  | .ofNat n => String.ofList (paddedNat width n)
  | .negSucc n => String.ofList ('-' :: paddedNat (width - 1) (n + 1))

/-- Reads on after a digit: further digits, each after at most one underscore. -/
def readMoreDigits? (value : Nat) : List Char → Option Nat
  | [] => some value
  | '_' :: c :: rest => (digitValue? c).bind fun d => readMoreDigits? (10 * value + d) rest
  | c :: rest => (digitValue? c).bind fun d => readMoreDigits? (10 * value + d) rest

/-- Digits of any script, with single underscores between them. -/
def readDigits? : List Char → Option Nat
  | [] => none
  | c :: rest => (digitValue? c).bind fun d => readMoreDigits? d rest

/-- Digits after an optional sign. -/
def readSigned? : List Char → Option Int
  | '-' :: rest => (readDigits? rest).map fun n => -(n : Int)
  | '+' :: rest => (readDigits? rest).map Int.ofNat
  | text => (readDigits? text).map Int.ofNat

/-- The most digits a numeral may have. -/
def maxDigits : Nat := 4300

/-- A blank that may stand around a number: any blank but the four information separators. -/
def isNumberMargin (c : Char) : Bool := isBlank c && !(0x1C ≤ c.toNat && c.toNat ≤ 0x1F)

/-- Reads a whole number of at most `maxDigits` digits. -/
def readInt? (text : String) : Option Int :=
  let numeral := trimWhile isNumberMargin text.toList
  if maxDigits < (numeral.filter fun c => (digitValue? c).isSome).length then none
  else readSigned? numeral

end EditorAssist.Text
