import EditorAssist.Log.Calendar
import EditorAssist.Log.Note
import EditorAssist.Text.Parts

/-! # Log lines

A record is written as `[L YYYY-MM-DD HH:MM:SS.mmm part] message`, where `L` is the first letter of
its level.  In colour, the part in brackets stands between the colour of the level and a reset. -/

namespace EditorAssist.Log

/-- A moment: seconds from the start of 1970, and milliseconds, of which a fraction is cut off. -/
structure Moment where
  seconds : Int
  milliseconds : Rat
deriving Repr, DecidableEq

/-- The start of 1970. -/
def Moment.epoch : Moment := ⟨0, 0⟩

/-- An error that a record tells about. -/
structure Trouble where
  kind : String
  message : String
deriving Repr, DecidableEq

/-- The error in one line: its kind, and its message unless that is empty. -/
def Trouble.text (t : Trouble) : String :=
  if t.message = "" then t.kind else t.kind ++ ": " ++ t.message

/-- Something to be written to the log. -/
structure Record where
  name : String
  levelName : String
  message : String
  moment : Moment
  trouble : Option Trouble
deriving Repr, DecidableEq

/-- Why a record cannot be written. -/
inductive Unwritable where
  | emptyLevelName
  | secondsTooLarge
  | yearTooLarge
deriving Repr, DecidableEq

/-- Says why a record cannot be written. -/
def Unwritable.message : Unwritable → String
  | .emptyLevelName => "string index out of range"
  | .secondsTooLarge => "timestamp out of range for platform time_t"
  | .yearTooLarge => "[Errno 75] Value too large for defined data type"

/-! ### The parts of a line -/

/-- The part of the program that wrote a record: its own name is left out before a dot, and given
in full where it stands alone. -/
def shortName (name : String) : String :=
  match Text.after? "mrya_lsp.".toList name.toList with
  | some rest => String.ofList rest
  | none => if name = "mrya_lsp" then "MryaLSP" else name

/-- Ends a colour. -/
def reset : String := "\x1b[0m"

/-- The colour of a level, by its name. -/
def color (levelName : String) : String :=
  match Level.ofName? levelName with
  | some .debug => "\x1b[36m"
  | some .info => "\x1b[32m"
  | some .warning => "\x1b[33m"
  | some .error => "\x1b[31m"
  | some .critical => "\x1b[35m"
  | none => reset

/-- The number fits into 64 bits with a sign. -/
def fitsSeconds (seconds : Int) : Bool :=
  -9223372036854775808 ≤ seconds && seconds ≤ 9223372036854775807

/-- The number of years after 1900 fits into 32 bits with a sign. -/
def fitsYear (year : Int) : Bool :=
  -2147483648 ≤ year - 1900 && year - 1900 ≤ 2147483647

/-- The date and time of a moment, if they can be told. -/
def Moment.dateTime (m : Moment) : Except Unwritable DateTime :=
  if !fitsSeconds m.seconds then .error .secondsTooLarge
  else
    let t := DateTime.ofSeconds m.seconds
    if !fitsYear t.year then .error .yearTooLarge else .ok t

/-- The milliseconds without their fraction. -/
def Moment.wholeMilliseconds (m : Moment) : Int := m.milliseconds.num.tdiv m.milliseconds.den

/-- The moment as `YYYY-MM-DD HH:MM:SS.mmm`. -/
def Moment.stamp (m : Moment) : Except Unwritable String :=
  m.dateTime.map fun t => t.text ++ "." ++ Text.padded 3 m.wholeMilliseconds

/-! ### Lines -/

/-- The part of a line in brackets. -/
def Record.head (r : Record) : Except Unwritable String :=
  match r.levelName.toList with
  | [] => .error .emptyLevelName
  | letter :: _ => r.moment.stamp.map fun stamp =>
      "[" ++ letter.toString ++ " " ++ stamp ++ " " ++ shortName r.name ++ "]"

/-- The part of a line after the brackets: the message, and the error below it. -/
def Record.tail (r : Record) : String :=
  " " ++ r.message ++ (r.trouble.map fun t => "\n" ++ t.text).getD ""

/-- The line of a record. -/
def Record.line (r : Record) (inColor : Bool) : Except Unwritable String :=
  r.head.map fun head =>
    (if inColor then color r.levelName ++ head ++ reset else head) ++ r.tail

end EditorAssist.Log
