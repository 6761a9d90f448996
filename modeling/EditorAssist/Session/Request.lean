import EditorAssist.Assistant
import EditorAssist.Document.Word
import EditorAssist.Session.Store

/-! # Requests about a document

What an editor asks about a place in an open document is answered from the text of that document
alone.  A document that is not open has no suggestions and no words.

* `suggestionsOn`, `suggestionsIn`: what may be put in at a place;
* `hoverOn`, `hoverIn`: what the handbook says about the word at a place. -/

namespace EditorAssist.Session

/-! ### Positions -/

/-- A line and a column, both counted from zero. -/
structure Position where
  line : Nat
  character : Nat
deriving Repr, DecidableEq

/-- The two numbers of a position. -/
inductive Axis where
  | line
  | character
deriving Repr, DecidableEq

/-- The name of the number in messages. -/
def Axis.name : Axis → String
  | .line => "line"
  | .character => "character"

/-- A number that no position can have. -/
structure OutOfRange where
  axis : Axis
  value : Int
deriving Repr, DecidableEq

/-- The greatest line and column that an editor may ask for. -/
def maxCoordinate : Nat := 2147483647

/-- Says which number is out of range. -/
def OutOfRange.message (e : OutOfRange) : String :=
  "Position." ++ e.axis.name ++ " should be in range [0:" ++ toString maxCoordinate ++
    "], but was " ++ toString e.value ++ "."

/-- The number lies between zero and the greatest one. -/
def inRange (value : Int) : Bool := 0 ≤ value && value ≤ maxCoordinate

/-- The position of two numbers; the line is looked at first. -/
def Position.ofInts (line character : Int) : Except OutOfRange Position :=
  if !inRange line then .error ⟨.line, line⟩
  else if !inRange character then .error ⟨.character, character⟩
  else .ok ⟨line.toNat, character.toNat⟩

/-! ### Answers -/

/-- An entry of the handbook, what is shown of it, and the columns of the word that it explains. -/
structure Hover where
  entry : Entry
  /-- The text that is shown. -/
  value : String
  line : Nat
  start : Int
  stop : Int
deriving Repr, DecidableEq

/-- The text before a position, if the document has such a line. -/
def textBefore? (text : String) (p : Position) : Option String :=
  match Document.textBefore text p.line p.character with
  | .ok found => found
  | .error _ => none

/-- The numbers of a position count nothing back, so the text before it is never out of reach. -/
theorem textBefore_eq_ok (text : String) (p : Position) :
    Document.textBefore text p.line p.character = .ok (textBefore? text p) := rfl

/-- The word at a position. -/
def wordAt? (text : String) (p : Position) : Option Document.Word :=
  (Document.lines text)[p.line]?.bind fun line => Document.wordFromStart line p.character

/-- The suggestions for a position in a text. -/
def suggestionsOn (a : Assistant) (text : String) (p : Position) : Answer :=
  match textBefore? text p with
  | none => .ofSuggestions []
  | some before => a.complete text before

/-- What is known about the word at a position in a text. -/
def hoverOn (a : Assistant) (text : String) (p : Position) : Option Hover :=
  match wordAt? text p with
  | none => none
  | some word => (a.explain word.text).map fun entry =>
      ⟨entry, entry.markdown, p.line, word.start, word.stop⟩

/-- The suggestions for a position in a document. -/
def suggestionsIn (a : Assistant) (store : Store) (uri : String) (p : Position) : Answer :=
  match store.get? uri with
  | none => .ofSuggestions []
  | some text => suggestionsOn a text p

/-- What is known about the word at a position in a document.  Lines are assumed to have at most
`maxCoordinate` characters: the columns of the word are not checked again, and on a longer line
they could be greater than those of any position. -/
def hoverIn (a : Assistant) (store : Store) (uri : String) (p : Position) : Option Hover :=
  match store.get? uri with
  | none => none
  | some text => hoverOn a text p

end EditorAssist.Session
