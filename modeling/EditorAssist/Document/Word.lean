import EditorAssist.Document.Line

/-! # The word at a column

The word at a column is the run of name characters that touches it from either side.  A negative
column counts from the end of the line; the word then begins at that column, and the run goes on
past the end of the line through its beginning. -/

namespace EditorAssist.Document

open Text

/-- A word of a line and the columns where it starts and stops. -/
structure Word where
  text : String
  start : Int
  stop : Int
deriving Repr, DecidableEq

/-- The name characters right before a column. -/
def runBefore (line : List Char) (column : Nat) : List Char :=
  ((line.take column).reverse.takeWhile isNameChar).reverse

/-- The name characters right after a column. -/
def runAfter (line : List Char) (column : Nat) : List Char :=
  (line.drop column).takeWhile isNameChar

/-- The word that touches a column counted from the start of the line. -/
def wordFromStart (line : List Char) (column : Nat) : Option Word :=
  if line.length < column then none
  else
    let before := runBefore line column
    let after := runAfter line column
    if before = [] ∧ after = [] then none
    else some ⟨String.ofList (before ++ after), column - before.length, column + after.length⟩

/-- The part of a line between two columns, each counted from the end if it is negative. -/
def between (line : List Char) (start stop : Int) : List Char :=
  (line.take (clamp line.length stop)).drop (clamp line.length start)

/-- The word at the column that stands `back` characters before the end of the line. -/
def wordFromEnd (line : List Char) (back : Nat) : Except Missing (Option Word) :=
  if line.length < back then .error (.ofBack back .character)
  else
    let run := (line.drop (line.length - back) ++ line).takeWhile isNameChar
    if run = [] then .ok none
    else
      let start : Int := -back
      let stop : Int := -back + run.length
      .ok (some ⟨String.ofList (between line start stop), start, stop⟩)

/-- The word at a column of a line. -/
def wordAt (line : List Char) : Int → Except Missing (Option Word)
  | .ofNat column => .ok (wordFromStart line column)
  | .negSucc back => wordFromEnd line (back + 1)

end EditorAssist.Document
