import EditorAssist.Log.Record
import EditorAssist.Text.Quoted

/-! # The logger

All parts of the program write through one logger.  It has a least level and any number of handlers;
setting it up replaces the handlers by a single one that writes lines to the error stream. -/

namespace EditorAssist.Log

/-- The least level that is written, and the number of handlers. -/
structure Logger where
  level : Int
  handlers : Nat
deriving Repr, DecidableEq

/-- A level as it is set: by number or by name. -/
inductive LevelSetting where
  | number (n : Int)
  | name (name : String)
deriving Repr, DecidableEq

/-- A name that no level has. -/
structure UnknownLevel where
  name : String
deriving Repr, DecidableEq

/-- Says which name no level has. -/
def UnknownLevel.message (e : UnknownLevel) : String := "Unknown level: " ++ Text.quoted e.name

/-- The number of a level setting. -/
def LevelSetting.resolve : LevelSetting → Except UnknownLevel Int
  | .number n => .ok n
  | .name word =>
    match levelNumber? word with
    | some n => .ok n
    | none => .error ⟨word⟩

namespace Logger

/-- The logger before it is set up. -/
def initial (handlers : Nat) : Logger := ⟨Level.warning.number, handlers⟩

/-- The level that is set when none is asked for. -/
def usualLevel : LevelSetting := .number Level.info.number

/-- Sets the level and leaves a single handler.  An unknown level changes nothing. -/
def setUp (_ : Logger) (setting : LevelSetting) : Except UnknownLevel Logger :=
  setting.resolve.map fun level => ⟨level, 1⟩

/-- Records of the level are written.  Level zero and below is for no record. -/
def writes (l : Logger) (level : Int) : Bool := l.level ≤ level && 0 < level

/-- The name under which a part of the program writes; the nameless part is the root. -/
def sourceName (name : String) : String := if name = "" then "root" else name

/-- What one record adds to the error stream. -/
def write (l : Logger) (inColor : Bool) (moment : Moment) (name : String) (level : Int)
    (message : String) : String :=
  if !l.writes level then ""
  else
    match Record.line ⟨sourceName name, levelName level, message, moment, none⟩ inColor with
    | .ok line => line ++ "\n"
    | .error _ => ""

/-- What a note adds to the error stream. -/
def writeNote (l : Logger) (inColor : Bool) (moment : Moment) (note : Note) : String :=
  l.write inColor moment note.source note.level.number note.message

end Logger

end EditorAssist.Log
