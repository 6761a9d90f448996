import EditorAssist.CommandLine.Argument

/-! # What the arguments ask for

The arguments of a command are turned into events in their order: a flag, an option with its value,
an argument that is not understood, or the word of a further command, which takes all arguments after
it.  An argument that cannot be used is an event too, so that what stands before it still acts.  A
divider that is attached to an option as its value is dropped, and leaves the option without one. -/

namespace EditorAssist.CommandLine

variable {φ ν : Type}

/-- What is wrong with an option. -/
inductive Fault where
  | valueExpected (title : String)
  | valueIgnored (title value : String)
deriving Repr, DecidableEq

/-- What a setting is given. -/
inductive Value (α : Type) where
  /-- The setting is given, but the value was dropped. -/
  | empty
  | of (value : α)
deriving Repr, DecidableEq

/-- The value that is attached to an option.  A divider is no value. -/
def Value.ofAttached (attached : String) : Value String :=
  if attached = "--" then .empty else .of attached

/-- What a part of the command line asks for. -/
inductive Event (φ ν : Type) where
  | flag (flag : φ)
  /-- A setting with its value, and the title of its option. -/
  | setting (setting : ν) (title : String) (value : Value String)
  | surplus (text : String)
  | command (word : String) (arguments : List String)
  | fault (fault : Fault)
deriving Repr, DecidableEq

/-- The flag of one letter, and the title of its option. -/
def letterFlag? (options : List (OptionSpec φ ν)) (letter : Char) : Option (φ × String) :=
  (inFull? options (String.ofList ['-', letter])).bind fun o =>
    match o.meaning with
    | .flag flag => some (flag, o.title)
    | .setting _ => none

/-- The flags written together, the first of them given with its title.  A letter that is no flag
spoils them all. -/
def flagsFrom (options : List (OptionSpec φ ν)) (flag : φ) (title : String) :
    List Char → Except Fault (List φ)
  | [] => .ok [flag]
  | letter :: rest =>
    match letterFlag? options letter with
    | some (next, nextTitle) => (flagsFrom options next nextTitle rest).map (flag :: ·)
    | none => .error (.valueIgnored title (String.ofList (letter :: rest)))

/-- The events of a flag with something attached to it. -/
def attachedFlag (options : List (OptionSpec φ ν)) (flag : φ) (title spelling attached : String) :
    List (Event φ ν) :=
  if startsWith spelling "--" || attached = "" then [.fault (.valueIgnored title attached)]
  else
    match flagsFrom options flag title attached.toList with
    | .ok flags => flags.map .flag
    | .error fault => [.fault fault]

/-- The events of the arguments.  `takesCommand` tells whether the first plain word is a further
command; the divider goes to that command as its word. -/
def events (options : List (OptionSpec φ ν)) (takesCommand : Bool) :
    List (Argument φ ν) → List (Event φ ν)
  | [] => []
  | ⟨text, .plain⟩ :: rest =>
    if takesCommand then [.command text (rest.map Argument.text)]
    else .surplus text :: events options takesCommand rest
  | ⟨text, .divider⟩ :: rest =>
    if takesCommand && !rest.isEmpty then [.command text (rest.map Argument.text)]
    else .surplus text :: events options takesCommand rest
  | ⟨text, .unknownOption⟩ :: rest => .surplus text :: events options takesCommand rest
  | ⟨_, .option o spelling (some attached)⟩ :: rest =>
    match o.meaning with
    | .flag flag =>
      attachedFlag options flag o.title spelling attached ++ events options takesCommand rest
    | .setting setting =>
      .setting setting o.title (.ofAttached attached) :: events options takesCommand rest
  | ⟨_, .option o _ none⟩ :: rest =>
    match o.meaning with
    | .flag flag => .flag flag :: events options takesCommand rest
    | .setting setting =>
      match rest with
      | ⟨value, .plain⟩ :: rest =>
        .setting setting o.title (.of value) :: events options takesCommand rest
      | _ => [.fault (.valueExpected o.title)]

end EditorAssist.CommandLine
