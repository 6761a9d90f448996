import EditorAssist.Folder.Path
import EditorAssist.Log.Note
import EditorAssist.Text.Quoted

/-! # Listing a folder

A lister answers a folder's path with its items or with the message of what went wrong, and may say
something while it works.  The lister over a file system sorts what the system enumerates, so that
its answer does not depend on the order of the enumeration, and takes a folder that cannot be read
for an empty one. -/

namespace EditorAssist.Folder

/-- Something directly in a folder. -/
structure Item where
  name : String
  isFolder : Bool
deriving Repr, DecidableEq

/-- Why a file system does not follow a path: a number, and the cause in words.  File systems have
causes of their own, so any number and any words may occur. -/
structure Cause where
  number : Nat
  text : String
deriving Repr, DecidableEq

namespace Cause

/-- Nothing is there. -/
def notFound : Cause := ⟨2, "No such file or directory"⟩

/-- What is taken for a folder is none. -/
def notFolder : Cause := ⟨20, "Not a directory"⟩

/-- A component, or the whole path, is too long. -/
def nameTooLong : Cause := ⟨36, "File name too long"⟩

/-- The links of a path do not come to an end. -/
def tooManyLinks : Cause := ⟨40, "Too many levels of symbolic links"⟩

end Cause

/-- A path that a file system does not follow, and why. -/
structure Failure where
  cause : Cause
  path : String
deriving Repr, DecidableEq

/-- The cause, told of the path. -/
def Failure.message (f : Failure) : String :=
  "[Errno " ++ toString f.cause.number ++ "] " ++ f.cause.text ++ ": " ++
    Text.quoted (shownPath f.path)

/-- What asking for a folder gives. -/
structure Listing where
  /-- The items, or the message of what went wrong. -/
  outcome : Except String (List Item)
  notes : List Log.Note

/-- Answers the path of a folder. -/
abbrev Lister := String → Listing

/-- A path with the character of code zero, which no file system takes. -/
structure NullInPath where
deriving Repr, DecidableEq

/-- What is wrong with such a path. -/
def NullInPath.message (_ : NullInPath) : String := "embedded null byte"

/-- The items in ascending order of their names. -/
def sortItems (items : List Item) : List Item :=
  items.mergeSort fun a b => decide (a.name ≤ b.name)

/-- Said when a folder cannot be read. -/
def unreadableNote (root : String) (failure : Failure) : Log.Note where
  level := .debug
  source := "mrya_lsp.workspace"
  message := "Failed to list workspace directory " ++ root ++ ": " ++ failure.message

/-- The sorted items of a folder and what is said about it. -/
def list (enumerate : String → Except Failure (List Item)) (root : String) :
    Except NullInPath (List Item × List Log.Note) :=
  if root.toList.contains (Char.ofNat 0) then .error ⟨⟩
  else match enumerate root with
    | .ok items => .ok (sortItems items, [])
    | .error failure => .ok ([], [unreadableNote root failure])

/-- The lister over a file system that enumerates folders in any order. -/
def lister (enumerate : String → Except Failure (List Item)) : Lister := fun root =>
  match list enumerate root with
  | .ok (items, notes) => ⟨.ok items, notes⟩
  | .error e => ⟨.error e.message, []⟩

end EditorAssist.Folder
