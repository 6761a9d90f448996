import EditorAssist.Text.Parts

/-! # Lines and columns

The lines of a document are divided by line feeds alone, and the carriage returns at the end of a
line are not shown.  Lines and columns are counted from zero, in characters; a negative number
counts from the end.

* `Document.textBefore`: the part of a line before a column. -/

namespace EditorAssist.Document

/-- Why a place cannot be read. -/
inductive Missing where
  /-- A line counted back beyond the first one. -/
  | line
  /-- A character counted back beyond the first one. -/
  | character
  /-- A number counted back beyond every index. -/
  | unreachable
deriving Repr, DecidableEq

/-- Says what is missing. -/
def Missing.message : Missing → String
  | .line => "list index out of range"
  | .character => "string index out of range"
  | .unreachable => "cannot fit 'int' into an index-sized integer"

/-- The furthest that an index counts back. -/
def furthestBack : Nat := 9223372036854775808

/-- The fault of counting `back` places back where there are not as many. -/
def Missing.ofBack (back : Nat) (usual : Missing) : Missing :=
  if furthestBack < back then .unreachable else usual

/-- The lines of a text, as they are stored. -/
def storedLines (text : String) : List (List Char) := Text.split '\n' text.toList

/-- A line without the carriage returns at its end. -/
def shown (line : List Char) : List Char := Text.dropEndWhile (· == '\r') line

/-- The lines of a text, as they are shown. -/
def lines (text : String) : List (List Char) := (storedLines text).map shown

/-- The line with the number.  There is none past the end, and counting back beyond the first one
is an error. -/
def line? (text : String) (number : Int) : Except Missing (Option (List Char)) :=
  let all := lines text
  match number with
  | .ofNat n => .ok all[n]?
  | .negSucc n =>
    if n < all.length then .ok all[all.length - (n + 1)]? else .error (.ofBack (n + 1) .line)

/-- The place that a column names in a line of `length` characters, cut off at both ends. -/
def clamp (length : Nat) (column : Int) : Nat :=
  if column < 0 then (length + column).toNat else min column.toNat length

/-- The part of a line before the column. -/
def takeTo (line : List Char) (column : Int) : List Char := line.take (clamp line.length column)

/-- The part of the numbered line before the column, if there is such a line. -/
def textBefore (text : String) (line column : Int) : Except Missing (Option String) :=
  (line? text line).map fun found => found.map fun line => String.ofList (takeTo line column)

end EditorAssist.Document
