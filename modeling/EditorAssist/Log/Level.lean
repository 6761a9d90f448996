/-! # Log levels

A level is a number, and the greater it is the more a record matters.  Five levels have a name of
their own that records carry; zero is named too, and any other number is named by itself. -/

namespace EditorAssist.Log

/-- The levels at which the program itself writes. -/
inductive Level where
  | debug
  | info
  | warning
  | error
  | critical
deriving Repr, DecidableEq

namespace Level

/-- All levels, the least first. -/
def all : List Level := [.debug, .info, .warning, .error, .critical]

/-- The name that records of this level carry. -/
def name : Level → String
  | .debug => "DEBUG"
  | .info => "INFO"
  | .warning => "WARNING"
  | .error => "ERROR"
  | .critical => "CRITICAL"

/-- The number of the level. -/
def number : Level → Int
  | .debug => 10
  | .info => 20
  | .warning => 30
  | .error => 40
  | .critical => 50

/-- The level that carries the name. -/
def ofName? (name : String) : Option Level := all.find? fun level => level.name = name

end Level

/-- The name of a level given by its number. -/
def levelName (number : Int) : String :=
  match Level.all.find? fun level => level.number = number with
  | some level => level.name
  | none => if number = 0 then "NOTSET" else "Level " ++ toString number

/-- The number that a setting names: a level, zero, or one of two other spellings. -/
def levelNumber? (name : String) : Option Int :=
  match Level.ofName? name with
  | some level => some level.number
  | none =>
    match name with
    | "FATAL" => some 50
    | "WARN" => some 30
    | "NOTSET" => some 0
    | _ => none

end EditorAssist.Log
