import EditorAssist.Location.Basic
import EditorAssist.Session.Request
import EditorAssist.Settings
import EditorAssist.Text.Quoted

/-! # Sessions

A session is what an editor and the assistant share: the open documents and the folder that is
worked in.  Each start gives a new store of documents, unless the root that the editor names for the
store cannot be read; then nothing changes.  Requests read the store that was current at the first
request that was answered, also after a later start; opening, changing and closing act on the
current store.

* `Session.run`: the session after a step, and the outcome of the step. -/

namespace EditorAssist

namespace Session

/-- Which store requests read. -/
inductive Reading where
  /-- No request has been answered yet. -/
  | undecided
  /-- The current store. -/
  | current
  /-- The store that was current before a later start. -/
  | earlier (store : Store)
deriving Repr, DecidableEq

end Session

/-- The state that an editor and the assistant share. -/
structure Session where
  assistant : Assistant
  /-- The current store; there is none before the first start. -/
  store : Option Session.Store
  reading : Session.Reading

namespace Session

/-! ### Steps and outcomes -/

/-- What an editor may do. -/
inductive Step where
  /-- Start, with the folders that are worked in, the root as a location and as a path. -/
  | start (folders : List String) (rootUri rootPath : Option String)
  | openDocument (uri text : String)
  | changeDocument (uri text : String)
  | closeDocument (uri : String)
  | setRoot (root : Option String)
  | complete (uri : String) (line character : Int)
  | hover (uri : String) (line character : Int)
deriving Repr, DecidableEq

/-- Why a step fails. -/
inductive Error where
  | position (e : OutOfRange)
  | notStarted
  | unknownDocument (uri : String)
  | location (e : Location.Fault)
  /-- A root path that names a machine and no path on it. -/
  | machineOnly
deriving Repr, DecidableEq

/-- Says why a step fails. -/
def Error.message : Error → String
  | .position e => e.message
  | .notStarted => "The workspace is not available - has the server been initialized?"
  | .unknownDocument uri => Text.quoted uri
  | .location e => e.message
  | .machineOnly => "substring not found"

/-- What a step answers. -/
inductive Reply where
  | nothing
  | root (root : Option String)
  | suggestions (suggestions : List Suggestion)
  | hover (hover : Option Hover)
deriving Repr, DecidableEq

/-- The answer of a step, the folders that were listed for it, and what was said meanwhile. -/
structure Outcome where
  reply : Except Error Reply
  listed : List String
  notes : List Log.Note

/-- A step that only fails. -/
def Outcome.failed (e : Error) : Outcome := ⟨.error e, [], []⟩

/-- A step that says something and answers. -/
def Outcome.answered (reply : Reply) (notes : List Log.Note) : Outcome := ⟨.ok reply, [], notes⟩

/-- The answer to a request for suggestions, as an outcome. -/
def Outcome.ofAnswer (answer : Answer) : Outcome :=
  ⟨.ok (.suggestions answer.suggestions), answer.listed, answer.notes⟩

/-- The characters after which an editor asks for suggestions by itself. -/
def triggerCharacters : List String := [".", "(", "[", "\x7b", " ", "\t", "\""]

/-! ### Starting -/

/-- Said by the session itself. -/
def note (message : String) : Log.Note := ⟨.info, "mrya_lsp.server", message⟩

/-- Said when a start begins. -/
def startingNote : Log.Note := note "Initializing Mrya LSP server"

/-- Said when a start ends. -/
def rootNote (root : Option String) : Log.Note := note ("Workspace root: " ++ root.getD "None")

/-- Said when a document is opened. -/
def openedNote (uri : String) : Log.Note := note ("Opened document: " ++ uri)

/-- The path begins with two slashes, and no slash ends the machine's name after them. -/
def namesMachineOnly (path : String) : Bool :=
  match path.toList with
  | '/' :: '/' :: rest => !rest.contains '/'
  | _ => false

/-- A new store takes its root from the location, or else from the path, and refuses a root that
cannot be read.  Empty roots count here, and folders do not. -/
def checkStoreRoot (rootUri rootPath : Option String) : Except Error Unit :=
  match rootUri, rootPath with
  | some uri, _ =>
    match Location.toPath uri with
    | .ok _ => .ok ()
    | .error e => .error (.location e)
  | none, some path => if namesMachineOnly path then .error .machineOnly else .ok ()
  | none, none => .ok ()

/-- The root that a start names: its first folder, else the root as a location, else the root as a
path.  An empty root names nothing. -/
def namedRoot? (folders : List String) (rootUri rootPath : Option String) :
    Except Location.Fault (Option String) :=
  match folders, rootUri.filter (· ≠ ""), rootPath.filter (· ≠ "") with
  | folder :: _, _, _ => (Location.toPath folder).map some
  | [], some uri, _ => (Location.toPath uri).map some
  | [], none, path => .ok path

/-- The session with the folder that is worked in. -/
def withRoot (s : Session) (root : Option String) : Session :=
  { s with assistant := { s.assistant with root := root } }

/-- The session with a new store.  Requests that read the current store go on reading it. -/
def withNewStore (s : Session) : Session :=
  { s with
    store := some .empty
    reading := match s.reading, s.store with
      | .current, some store => .earlier store
      | reading, _ => reading }

/-- Takes the root that is named.  A folder that cannot be read leaves the root as it was, and the
start ends without a word. -/
def nameRoot (s : Session) (named : Except Location.Fault (Option String)) : Session × Outcome :=
  match named with
  | .error _ => (s, .answered (.root s.assistant.root) [startingNote])
  | .ok named =>
    let root := named <|> s.assistant.root
    (s.withRoot root, .answered (.root root) [startingNote, rootNote root])

/-- Starts: a new store, and the root that is named. -/
def start (s : Session) (folders : List String) (rootUri rootPath : Option String) :
    Session × Outcome :=
  match checkStoreRoot rootUri rootPath with
  | .error e => (s, .failed e)
  | .ok () => s.withNewStore.nameRoot (namedRoot? folders rootUri rootPath)

/-! ### Documents -/

/-- Acts on the current store. -/
def onStore (s : Session) (act : Store → Except Error Store) (notes : List Log.Note) :
    Session × Outcome :=
  match s.store with
  | none => (s, .failed .notStarted)
  | some store =>
    match act store with
    | .error e => (s, .failed e)
    | .ok store => ({ s with store := some store }, .answered .nothing notes)

/-- Opens a document whose location can be read. -/
def openIn (uri text : String) (store : Store) : Except Error Store :=
  match Location.toPath uri with
  | .error e => .error (.location e)
  | .ok _ => .ok (store.put uri text)

/-- Changes the text of a document that is open. -/
def changeIn (uri text : String) (store : Store) : Except Error Store :=
  match store.get? uri with
  | none => .error (.unknownDocument uri)
  | some _ => .ok (store.put uri text)

/-! ### Requests -/

/-- The store that requests read. -/
def readStore? (s : Session) : Option Store :=
  match s.reading with
  | .earlier store => some store
  | _ => s.store

/-- The session after an answered request. -/
def settled (s : Session) : Session :=
  match s.reading with
  | .undecided => { s with reading := .current }
  | _ => s

/-- Answers a request about a position. -/
def request (s : Session) (line character : Int) (answer : Store → Position → Outcome) :
    Session × Outcome :=
  match Position.ofInts line character with
  | .error e => (s, .failed (.position e))
  | .ok p =>
    match s.readStore? with
    | none => (s, .failed .notStarted)
    | some store => (s.settled, answer store p)

/-- The suggestions for a position, as an outcome. -/
def completeIn (s : Session) (uri : String) (store : Store) (p : Position) : Outcome :=
  .ofAnswer (suggestionsIn s.assistant store uri p)

/-! ### Running a session -/

/-- The session after a step, and the outcome of the step. -/
def run (s : Session) : Step → Session × Outcome
  | .start folders rootUri rootPath => s.start folders rootUri rootPath
  | .openDocument uri text => s.onStore (openIn uri text) [openedNote uri]
  | .changeDocument uri text => s.onStore (changeIn uri text) []
  | .closeDocument uri => s.onStore (fun store => .ok (store.erase uri)) []
  | .setRoot root => (s.withRoot root, .answered (.root root) [])
  | .complete uri line character => s.request line character (s.completeIn uri)
  | .hover uri line character =>
    s.request line character fun store p => .answered (.hover (hoverIn s.assistant store uri p)) []

/-- The session after the steps, and their outcomes in order. -/
def runAll (s : Session) : List Step → Session × List Outcome
  | [] => (s, [])
  | step :: steps =>
    let (next, outcome) := s.run step
    let (last, outcomes) := next.runAll steps
    (last, outcome :: outcomes)

/-- A session before its first step. -/
def ofSettings (settings : Settings) (lister : Folder.Lister) : Session where
  assistant := ⟨settings.handbook, lister, none, settings.sourceExtension⟩
  store := none
  reading := .undecided

end Session

end EditorAssist
