import EditorAssist.Text.Digit
import EditorAssist.Text.Parts

/-! # The arguments of a command

Before a command acts on its arguments, each of them is read as an option, as a plain word, or as
the divider after which all arguments are plain.  A long option may be shortened as long as no other
one begins so, and may have its value attached after an equals sign; flags of one letter may be
written together. -/

namespace EditorAssist.CommandLine

variable {φ ν : Type}

/-- What an option means: a flag, or a setting that takes a value. -/
inductive Meaning (φ ν : Type) where
  | flag (flag : φ)
  | setting (setting : ν)
deriving Repr, DecidableEq

/-- An option of a command. -/
structure OptionSpec (φ ν : Type) where
  meaning : Meaning φ ν
  spellings : List String
deriving Repr, DecidableEq

/-- All spellings of an option, as messages name it. -/
def OptionSpec.title (o : OptionSpec φ ν) : String := "/".intercalate o.spellings

/-- How an argument is read. -/
inductive Reading (φ ν : Type) where
  | plain
  | divider
  | option (option : OptionSpec φ ν) (spelling : String) (attached : Option String)
  | unknownOption
deriving Repr, DecidableEq

/-- An argument and how it is read. -/
structure Argument (φ ν : Type) where
  text : String
  reading : Reading φ ν
deriving Repr, DecidableEq

/-- A shortened option that more than one option begins with. -/
structure Ambiguous where
  text : String
  candidates : List String
deriving Repr, DecidableEq

/-! ### Finding the option -/

/-- Every spelling of the options, with its option. -/
def spelled (options : List (OptionSpec φ ν)) : List (String × OptionSpec φ ν) :=
  options.flatMap fun o => o.spellings.map fun spelling => (spelling, o)

/-- The option that is spelled just so. -/
def inFull? (options : List (OptionSpec φ ν)) (spelling : String) : Option (OptionSpec φ ν) :=
  (spelled options).lookup spelling

/-- The text before the first equals sign, and the text after it. -/
def splitAttached (text : String) : String × Option String :=
  let chars := text.toList
  match chars.dropWhile (· ≠ '=') with
  | [] => (text, none)
  | _ :: attached => (String.ofList (chars.takeWhile (· ≠ '=')), some (String.ofList attached))

/-- The text begins with the other one. -/
def startsWith (text head : String) : Bool := head.toList.isPrefixOf text.toList

/-- The readings of an argument that begins like an option but spells none in full. -/
def candidates (options : List (OptionSpec φ ν)) (text : String) :
    List (OptionSpec φ ν × String × Option String) :=
  if startsWith text "--" then
    let (shortened, attached) := splitAttached text
    (spelled options).filterMap fun (spelling, o) =>
      if startsWith spelling shortened then some (o, spelling, attached) else none
  else
    (spelled options).filterMap fun (spelling, o) =>
      if spelling.toList = text.toList.take 2 then
        some (o, spelling, some (String.ofList (text.toList.drop 2)))
      else if startsWith spelling text then some (o, spelling, none)
      else none

/-- One or more digits that end the text, a final line break aside. -/
def isDigitsToEnd (text : List Char) : Bool :=
  let digit (c : Char) := (Text.digitValue? c).isSome
  !(text.takeWhile digit).isEmpty && (text.dropWhile digit == [] || text.dropWhile digit == ['\n'])

/-- A minus sign and a number, with or without a decimal point. -/
def isNegativeNumber : List Char → Bool
  | '-' :: rest =>
    isDigitsToEnd rest ||
      match rest.dropWhile fun c => (Text.digitValue? c).isSome with
      | '.' :: fraction => isDigitsToEnd fraction
      | _ => false
  | _ => false

/-- Reads an argument that stands before the divider. -/
def readArgument (options : List (OptionSpec φ ν)) (text : String) :
    Except Ambiguous (Reading φ ν) :=
  if !startsWith text "-" then .ok .plain
  else match inFull? options text with
  | some o => .ok (.option o text none)
  | none =>
    if text = "-" then .ok .plain
    else
      let (spelling, attached) := splitAttached text
      match (if attached.isSome then inFull? options spelling else none) with
      | some o => .ok (.option o spelling attached)
      | none =>
        match candidates options text with
        | [(o, spelling, attached)] => .ok (.option o spelling attached)
        | [] =>
          if isNegativeNumber text.toList || text.toList.contains ' ' then .ok .plain
          else .ok .unknownOption
        | several => .error ⟨text, several.map fun found => found.2.1⟩

/-- Reads all arguments. -/
def readArguments (options : List (OptionSpec φ ν)) :
    List String → Except Ambiguous (List (Argument φ ν))
  | [] => .ok []
  | text :: rest =>
    if text = "--" then .ok (⟨text, .divider⟩ :: rest.map fun text => ⟨text, .plain⟩)
    else
      match readArgument options text, readArguments options rest with
      | .error e, _ => .error e
      | .ok _, .error e => .error e
      | .ok reading, .ok arguments => .ok (⟨text, reading⟩ :: arguments)

end EditorAssist.CommandLine
