import EditorAssist.Text.Parts

/-! # Paths

A path is a text whose components are divided by slashes.  Empty components and single dots say
nothing and are left out of the shown form; two dots stay. -/

namespace EditorAssist.Folder

/-- The components of a path that say something. -/
def components (path : String) : List String :=
  ((Text.split '/' path.toList).filter fun part => part ≠ [] ∧ part ≠ ['.']).map String.ofList

/-- The slashes that a shown path begins with: two if the path begins with just two, else one. -/
def leadingSlashes (path : String) : String :=
  match (path.toList.takeWhile (· == '/')).length with
  | 0 => ""
  | 2 => "//"
  | _ => "/"

/-- The path without what says nothing in it.  The empty path is shown as a dot. -/
def shownPath (path : String) : String :=
  let shown := leadingSlashes path ++ "/".intercalate (components path)
  if shown = "" then "." else shown

/-- The path of an item under a name in the folder at a path. -/
def itemPath (path name : String) : String :=
  leadingSlashes path ++ "/".intercalate (components path ++ [name])

end EditorAssist.Folder
