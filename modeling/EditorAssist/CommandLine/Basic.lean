import EditorAssist.CommandLine.Event
import EditorAssist.CommandLine.Usage
import EditorAssist.Log.Level
import EditorAssist.Text.Numeral
import EditorAssist.Text.Quoted

/-! # The command line

The program takes a few options and one command, `server`, with options of its own.  Options act in
their order: help and the version end the program when they are reached, and so does the first
misuse.

* `CommandLine.parse`: what is asked for, or why the program stops. -/

namespace EditorAssist.CommandLine

open Log (Level)

/-! ### Why the program stops -/

/-- How the command line is misused. -/
inductive Misuse where
  | ambiguous (e : Ambiguous)
  | fault (fault : Fault)
  | notAChoice (title value : String) (choices : List String)
  | notANumber (title value : String)
  | unrecognized (arguments : List String)
  | noCommand
  | tcpAndStdio
deriving Repr, DecidableEq

/-- Says how the command line is misused. -/
def Misuse.message : Misuse → String
  | .ambiguous e =>
    "ambiguous option: " ++ e.text ++ " could match " ++ ", ".intercalate e.candidates
  | .fault (.valueExpected title) => "argument " ++ title ++ ": expected one argument"
  | .fault (.valueIgnored title value) =>
    "argument " ++ title ++ ": ignored explicit argument " ++ Text.quoted value
  | .notAChoice title value choices =>
    "argument " ++ title ++ ": invalid choice: " ++ Text.quoted value ++ " (choose from " ++
      ", ".intercalate (choices.map Text.quoted) ++ ")"
  | .notANumber title value =>
    "argument " ++ title ++ ": invalid int value: " ++ Text.quoted value
  | .unrecognized arguments => "unrecognized arguments: " ++ " ".intercalate arguments
  | .noCommand =>
    "A subcommand is required. Use 'mrya-lsp server' to start the LSP server.\n" ++
      "See 'mrya-lsp --help' for available commands."
  | .tcpAndStdio => "--tcp and --stdio are mutually exclusive"

/-- Why the program stops without starting a server. -/
inductive Stop where
  | help (command : Command)
  | version
  | misuse (command : Command) (how : Misuse)
deriving Repr, DecidableEq

namespace Stop

/-- What is written to the output stream. -/
def output : Stop → String
  | .help command => command.help
  | .version => programName ++ " " ++ CommandLine.version ++ "\n"
  | .misuse _ _ => ""

/-- What is written to the error stream. -/
def errors : Stop → String
  | .misuse command how =>
    command.usage ++ command.title ++ ": error: " ++ how.message ++ "\n"
  | _ => ""

/-- The exit code. -/
def exitCode : Stop → Nat
  | .misuse _ _ => 2
  | _ => 0

end Stop

/-! ### The options of the server command -/

/-- The flags of the server command. -/
inductive ServerFlag where
  | help
  | tcp
  | stdio
deriving Repr, DecidableEq

/-- The settings of the server command. -/
inductive ServerSetting where
  | port
deriving Repr, DecidableEq

/-- How the options of the server command are written. -/
def serverOptions : List (OptionSpec ServerFlag ServerSetting) := [
  ⟨.flag .help, ["-h", "--help"]⟩,
  ⟨.flag .tcp, ["--tcp"]⟩,
  ⟨.setting .port, ["--port"]⟩,
  ⟨.flag .stdio, ["--stdio"]⟩]

/-- What the server command is told, and the arguments that it does not know. -/
structure ServerRequest where
  tcp : Bool := false
  port : Value Int := .of 8080
  stdio : Bool := false
  surplus : List String := []
deriving Repr, DecidableEq

/-- Acts on one event of the server command. -/
def ServerRequest.act (r : ServerRequest) :
    Event ServerFlag ServerSetting → Except Stop ServerRequest
  | .flag .help => .error (.help .server)
  | .flag .tcp => .ok { r with tcp := true }
  | .flag .stdio => .ok { r with stdio := true }
  | .setting .port _ .empty => .ok { r with port := .empty }
  | .setting .port title (.of value) =>
    match Text.readInt? value with
    | some port => .ok { r with port := .of port }
    | none => .error (.misuse .server (.notANumber title value))
  | .surplus text => .ok { r with surplus := r.surplus ++ [text] }
  | .command word arguments => .ok { r with surplus := r.surplus ++ word :: arguments }
  | .fault fault => .error (.misuse .server (.fault fault))

/-- Reads the arguments of the server command. -/
def ServerRequest.ofArguments (arguments : List String) : Except Stop ServerRequest :=
  match readArguments serverOptions arguments with
  | .error e => .error (.misuse .server (.ambiguous e))
  | .ok arguments => (events serverOptions false arguments).foldlM ServerRequest.act {}

/-! ### The options of the program -/

/-- The flags of the program. -/
inductive ProgramFlag where
  | help
  | version
deriving Repr, DecidableEq

/-- The settings of the program. -/
inductive ProgramSetting where
  | logLevel
  | packageModules
deriving Repr, DecidableEq

/-- How the options of the program are written. -/
def programOptions : List (OptionSpec ProgramFlag ProgramSetting) := [
  ⟨.flag .help, ["-h", "--help"]⟩,
  ⟨.flag .version, ["--version"]⟩,
  ⟨.setting .logLevel, ["--log-level"]⟩,
  ⟨.setting .packageModules, ["--package-modules"]⟩]

/-- What the program is told, and the arguments that it does not know. -/
structure ProgramRequest where
  logLevel : Value Level := .of .info
  /-- The names of further packages, if the setting is given at all. -/
  packageModules : Option (Value String) := none
  server : Option ServerRequest := none
  surplus : List String := []
deriving Repr, DecidableEq

/-- Acts on one event of the program. -/
def ProgramRequest.act (r : ProgramRequest) :
    Event ProgramFlag ProgramSetting → Except Stop ProgramRequest
  | .flag .help => .error (.help .program)
  | .flag .version => .error .version
  | .setting .logLevel _ .empty => .ok { r with logLevel := .empty }
  | .setting .logLevel title (.of value) =>
    match Level.ofName? value with
    | some level => .ok { r with logLevel := .of level }
    | none => .error (.misuse .program (.notAChoice title value (Level.all.map Level.name)))
  | .setting .packageModules _ value => .ok { r with packageModules := some value }
  | .surplus text => .ok { r with surplus := r.surplus ++ [text] }
  | .command word arguments =>
    if word = "server" then
      (ServerRequest.ofArguments arguments).map fun server => { r with server := some server }
    else .error (.misuse .program (.notAChoice "command" word ["server"]))
  | .fault fault => .error (.misuse .program (.fault fault))

/-- Reads the arguments of the program. -/
def ProgramRequest.ofArguments (arguments : List String) : Except Stop ProgramRequest :=
  match readArguments programOptions arguments with
  | .error e => .error (.misuse .program (.ambiguous e))
  | .ok arguments => (events programOptions true arguments).foldlM ProgramRequest.act {}

/-! ### The whole command line -/

/-- How the server talks to the editor. -/
inductive Transport where
  | stdio
  | tcp (host : String) (port : Value Int)
deriving Repr, DecidableEq

/-- What a command line that starts the server asks for. -/
structure Request where
  logLevel : Value Level
  packageModules : Option (Value String)
  transport : Transport
deriving Repr, DecidableEq

/-- What is asked for, if all of it is understood and fits together. -/
def ProgramRequest.check (r : ProgramRequest) : Except Stop Request :=
  let surplus := r.surplus ++ (r.server.map ServerRequest.surplus).getD []
  if surplus ≠ [] then .error (.misuse .program (.unrecognized surplus))
  else match r.server with
    | none => .error (.misuse .program .noCommand)
    | some server =>
      if server.tcp && server.stdio then .error (.misuse .program .tcpAndStdio)
      else
        .ok ⟨r.logLevel, r.packageModules,
          if server.tcp then .tcp "localhost" server.port else .stdio⟩

/-- What the command line asks for, or why the program stops. -/
def parse (arguments : List String) : Except Stop Request :=
  (ProgramRequest.ofArguments arguments).bind ProgramRequest.check

end EditorAssist.CommandLine
