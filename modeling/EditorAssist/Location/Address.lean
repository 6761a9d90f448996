import EditorAssist.Text.Digit
import EditorAssist.Text.Parts

/-! # Internet addresses

Which texts are addresses.  A dotted address has four decimal numbers; a long one has eight
hexadecimal groups, of which the last two may be a dotted address.  Two colons in a row stand once
for one missing group or more, and a zone may follow a percent sign.

* `isIPv4`: the dotted addresses;
* `isIPv6`: the long addresses. -/

namespace EditorAssist.Location

open Text

/-! ### Dotted addresses -/

/-- The value of decimal digits. -/
def decimalValue (digits : List Char) : Nat :=
  digits.foldl (fun value c => 10 * value + (c.toNat - '0'.toNat)) 0

/-- A number of one byte, written without a zero before it. -/
def isOctet (part : List Char) : Bool :=
  part ≠ [] && part.all Char.isDigit && (part.head? ≠ some '0' || part = ['0']) &&
    part.length ≤ 3 && decimalValue part ≤ 255

/-- Four numbers of one byte with dots between them. -/
def isIPv4 (text : List Char) : Bool :=
  (split '.' text).length = 4 && (split '.' text).all isOctet

/-! ### Long addresses -/

/-- A group: one to four hexadecimal digits. -/
def isGroup (part : List Char) : Bool := part ≠ [] && part.all isHexDigit && part.length ≤ 4

/-- How many groups the parts spell.  A dotted address may stand last and spells two. -/
def groups? : List (List Char) → Option Nat
  | [] => some 0
  | [last] => if isIPv4 last then some 2 else if isGroup last then some 1 else none
  | part :: parts => if isGroup part then (groups? parts).map (· + 1) else none

/-- The parts between single colons; an empty text has none. -/
def colonParts (text : List Char) : List (List Char) := if text = [] then [] else split ':' text

/-- The texts before and after the first two colons in a row. -/
def splitGap? : List Char → Option (List Char × List Char)
  | [] => none
  | ':' :: ':' :: rest => some ([], rest)
  | c :: rest => (splitGap? rest).map fun sides => (c :: sides.1, sides.2)

/-- Eight groups, or fewer with one gap.  Only groups stand before the gap. -/
def isGroups (text : List Char) : Bool :=
  match splitGap? text with
  | none => groups? (colonParts text) = some 8
  | some (before, after) =>
    (colonParts before).all isGroup &&
      match groups? (colonParts after) with
      | none => false
      | some n => (colonParts before).length + n ≤ 7

/-- A zone: nothing, or a percent sign and a name without one. -/
def isZone : List Char → Bool
  | [] => true
  | _ :: name => name ≠ [] && !name.contains '%'

/-- Groups and a zone. -/
def isIPv6 (text : List Char) : Bool :=
  isGroups (text.takeWhile (· ≠ '%')) && isZone (text.dropWhile (· ≠ '%'))

/-- An address of a version to come: a version in hexadecimal, a dot, and anything. -/
def isFuture (text : List Char) : Bool :=
  match text with
  | 'v' :: rest =>
    match rest.takeWhile isHexDigit, rest.dropWhile isHexDigit with
    | _ :: _, '.' :: _ :: _ => true
    | _, _ => false
  | _ => false

end EditorAssist.Location
