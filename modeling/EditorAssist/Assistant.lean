import EditorAssist.Cursor.Spot
import EditorAssist.Suggestion.Sources

/-! # The assistant

An assistant knows a handbook, a way to list folders, the folder that is worked in and how source
files end.  It answers what may be put in at the cursor, and never fails: a folder that cannot be
listed adds nothing but a note.

* `Assistant.suggestAt`: the suggestions for a spot;
* `Assistant.complete`: the suggestions for the text before the cursor. -/

namespace EditorAssist

/-- Everything that suggestions depend on, apart from the document. -/
structure Assistant where
  handbook : Handbook
  lister : Folder.Lister
  /-- The folder that is worked in; the empty path counts as none. -/
  root : Option String
  sourceExtension : String

/-- Suggestions, with the folders that were listed for them and what was said meanwhile. -/
structure Answer where
  suggestions : List Suggestion
  listed : List String
  notes : List Log.Note
deriving Repr, DecidableEq

/-- Suggestions for which no folder is listed and nothing is said. -/
def Answer.ofSuggestions (suggestions : List Suggestion) : Answer := ⟨suggestions, [], []⟩

namespace Assistant

/-- How Mrya source files end. -/
def mryaExtension : String := ".mrya"

/-- Said when a lister gives no items. -/
def listingFailedNote (root message : String) : Log.Note where
  level := .debug
  source := "mrya_lsp.completion"
  message := "Workspace listing failed for " ++ root ++ ": " ++ message

/-- The folders and source files in a folder. -/
def filesIn (a : Assistant) (root : String) : Answer :=
  let listing := a.lister root
  match listing.outcome with
  | .ok items => ⟨items.filterMap (Suggestion.ofItem? a.sourceExtension), [root], listing.notes⟩
  | .error message => ⟨[], [root], listing.notes ++ [listingFailedNote root message]⟩

/-- The folder that is worked in, if it has a path. -/
def namedRoot? (a : Assistant) : Option String := a.root.filter (· ≠ "")

/-- The modules that can be imported, then what is in the folder that is worked in. -/
def importPaths (a : Assistant) : Answer :=
  match a.namedRoot? with
  | none => .ofSuggestions (Suggestion.imports a.handbook)
  | some root =>
    let files := a.filesIn root
    { files with suggestions := Suggestion.imports a.handbook ++ files.suggestions }

/-- The suggestions for a spot in a text. -/
def suggestAt (a : Assistant) (spot : Spot) (text : String) : Answer :=
  match spot with
  | .declaration | .literalOrComment => .ofSuggestions []
  | .importPath => a.importPaths
  | .member receiver => .ofSuggestions (Suggestion.members a.handbook receiver)
  | .general => .ofSuggestions (Suggestion.general a.handbook text)

/-- Said after every answer. -/
def answeredNote (spot : Spot) (count : Nat) : Log.Note where
  level := .debug
  source := "mrya_lsp.engine"
  message := "Completion context " ++ spot.title ++ ": " ++ toString count ++ " item(s)"

/-- The suggestions for a cursor in a text whose line reads `before` so far. -/
def complete (a : Assistant) (text before : String) : Answer :=
  let spot := Spot.ofText before
  let answer := a.suggestAt spot text
  { answer with notes := answer.notes ++ [answeredNote spot answer.suggestions.length] }

/-- The entry of the handbook that a word stands for. -/
def explain (a : Assistant) (word : String) : Option Entry := a.handbook.explain word

end Assistant

end EditorAssist
