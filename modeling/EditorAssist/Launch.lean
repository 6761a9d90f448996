import EditorAssist.CommandLine.Basic
import EditorAssist.Log.Logger
import EditorAssist.Settings

/-! # Launching the server

A request that is understood sets up the logger, reads the settings and says what is started.  The
logger and the settings cannot do with a setting that has no value; a transport can, as far as it is
only said what is started. -/

namespace EditorAssist

/-- A server that is about to run. -/
structure Launch where
  transport : CommandLine.Transport
  settings : Settings
  logger : Log.Logger
  notes : List Log.Note
deriving Repr, DecidableEq

namespace Launch

open CommandLine

/-- Said by the program itself. -/
def note (message : String) : Log.Note := ⟨.info, "__main__", message⟩

/-- Why nothing is started, though the command line is understood: a setting has no value. -/
inductive Unusable where
  | logLevel
  | packageModules
deriving Repr, DecidableEq

/-- Says why nothing is started. -/
def Unusable.message : Unusable → String
  | .logLevel => "attribute name must be string, not 'list'"
  | .packageModules => "'list' object has no attribute 'split'"

/-- How a transport is named in messages. -/
def transportTitle : Transport → String
  | .stdio => "stdio"
  | .tcp _ .empty => "TCP port []"
  | .tcp _ (.of port) => "TCP port " ++ toString port

/-- Said when packages are added. -/
def packagesNote (names : List String) : Log.Note :=
  note ("Extra package modules: " ++ ", ".intercalate names)

/-- Said when the server starts. -/
def startingNote (transport : Transport) : Log.Note :=
  note ("Starting Mrya LSP server (" ++ version ++ ") on " ++ transportTitle transport)

/-- The server with its settings, and what is said on the way. -/
def ofSettings (transport : Transport) (level : Log.Level) (settings : Settings) : Launch where
  transport := transport
  settings := settings
  logger := ⟨level.number, 1⟩
  notes :=
    (if settings.extraPackageModules = [] then []
      else [packagesNote settings.extraPackageModules]) ++ [startingNote transport]

/-- The server that a request starts.  The level of the logger is looked at first. -/
def ofRequest (request : Request) (environment : Environment) : Except Unusable Launch :=
  match request.logLevel, request.packageModules with
  | .empty, _ => .error .logLevel
  | .of _, some .empty => .error .packageModules
  | .of level, some (.of names) =>
    .ok (ofSettings request.transport level (.ofArgument (some names) environment))
  | .of level, none =>
    .ok (ofSettings request.transport level (.ofArgument none environment))

/-- What a launch writes to the error stream. -/
def errors (l : Launch) (inColor : Bool) (moment : Log.Moment) : String :=
  String.join (l.notes.map (l.logger.writeNote inColor moment))

end Launch

end EditorAssist
