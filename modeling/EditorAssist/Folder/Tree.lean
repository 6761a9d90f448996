import EditorAssist.Folder.Listing

/-! # File trees

A file tree held in memory: folders, files and symbolic links below a working folder.  Relative
paths start at the working folder.  Of what lies outside it only the folders on the way up are
known.

* `Tree.walk`: the place that components lead to, links followed;
* `Tree.follow`: the place that a path leads to, if it is not too long;
* `Tree.enumerate`: the items of the folder at a path. -/

namespace EditorAssist.Folder

/-- What a path of the tree holds. -/
inductive Node where
  | file
  | folder
  | link (target : String)
deriving Repr, DecidableEq

/-- Nodes below the working folder, each with the components of its path. -/
structure Tree where
  nodes : List (List String × Node)
deriving Repr, DecidableEq

/-- Where a walk stands. -/
inductive Place where
  /-- At the node with these components; the working folder has none. -/
  | inside (path : List String)
  /-- At a folder that is not below the working folder. -/
  | outside
deriving Repr, DecidableEq

namespace Tree

/-- The tree of a working folder without items. -/
def empty : Tree := ⟨[]⟩

/-- The node at a path; the working folder itself is a folder. -/
def node? (t : Tree) (path : List String) : Option Node :=
  if path = [] then some .folder else t.nodes.lookup path

/-- The place is a folder. -/
def isFolderAt (t : Tree) : Place → Bool
  | .inside path => t.node? path == some .folder
  | .outside => true

/-- The folder above a place. -/
def above : Place → Place
  | .inside path => if path = [] then .outside else .inside path.dropLast
  | .outside => .outside

/-- The node under a name in a place, and its path. -/
def child? (t : Tree) (place : Place) (name : String) : Option (List String × Node) :=
  match place with
  | .inside path => (t.node? (path ++ [name])).map fun node => (path ++ [name], node)
  | .outside => none

/-- Where a link leads from the place that holds it. -/
def linkStart (place : Place) (target : String) : Place :=
  if target.toList.head? = some '/' then .outside else place

/-- The most bytes of one name. -/
def maxNameBytes : Nat := 255

/-- The place that the components lead to.  At most `links` symbolic links are followed. -/
def walk (t : Tree) (links : Nat) (place : Place) (path : List String) : Except Cause Place :=
  match path with
  | [] => .ok place
  | name :: rest =>
    if !t.isFolderAt place then .error .notFolder
    else if name = "" || name = "." then t.walk links place rest
    else if name = ".." then t.walk links (above place) rest
    else if maxNameBytes < name.utf8ByteSize then .error .nameTooLong
    else match t.child? place name, links with
      | none, _ => .error .notFound
      | some (_, .link _), 0 => .error .tooManyLinks
      | some (_, .link target), links + 1 =>
        t.walk links (linkStart place target)
          ((Text.split '/' target.toList).map String.ofList ++ rest)
      | some (path, _), links => t.walk links (.inside path) rest
termination_by (links, path.length)

/-- How many links one walk follows. -/
def maxLinks : Nat := 40

/-- Where a path starts. -/
def start (path : String) : Place := linkStart (.inside []) path

/-- The most bytes of a whole path. -/
def maxPathBytes : Nat := 4095

/-- The place that a path leads to.  The path is measured as it is shown. -/
def follow (t : Tree) (path : String) : Except Cause Place :=
  if maxPathBytes < (shownPath path).utf8ByteSize then .error .nameTooLong
  else t.walk maxLinks (start path) (components path)

/-- The item under a name in the folder at a path.  It is a folder if its own path leads to one; a
path that leads nowhere is no folder, but one that is too long fails. -/
def item (t : Tree) (path name : String) : Except Failure Item :=
  match t.follow (itemPath path name) with
  | .ok place => .ok ⟨name, t.isFolderAt place⟩
  | .error cause =>
    if cause = .nameTooLong then .error ⟨cause, itemPath path name⟩ else .ok ⟨name, false⟩

/-- The names directly in a place. -/
def namesIn (t : Tree) : Place → List String
  | .inside path => t.nodes.filterMap fun node =>
      if node.1.dropLast = path then node.1.getLast? else none
  | .outside => []

/-- The items of the folder at a path, in the order of the tree. -/
def enumerate (t : Tree) (path : String) : Except Failure (List Item) :=
  match t.follow path with
  | .error cause => .error ⟨cause, path⟩
  | .ok place =>
    if t.isFolderAt place then (t.namesIn place).mapM (t.item path)
    else .error ⟨.notFolder, path⟩

/-! ### Making a tree -/

/-- An item may have the name: it is no step to the same folder or the one above, and not too
long. -/
def isItemName (name : String) : Bool :=
  name ≠ "" && name ≠ "." && name ≠ ".." && name.utf8ByteSize ≤ maxNameBytes

/-- Puts a node under a name that is still free in a folder.  What lies outside is not kept. -/
def put (t : Tree) (place : Place) (name : String) (node : Node) : Tree :=
  match place with
  | .outside => t
  | .inside path =>
    if t.isFolderAt place && isItemName name && (t.child? place name).isNone then
      ⟨t.nodes ++ [(path ++ [name], node)]⟩
    else t

/-- Makes the folders of a path from a place on, links followed and two dots taken upwards, and says
where the path leads if all of them are there. -/
def makeFolders (t : Tree) (place : Place) : List String → Tree × Option Place
  | [] => (t, some place)
  | name :: rest =>
    match (t.put place name .folder).walk maxLinks place [name] with
    | .ok found => (t.put place name .folder).makeFolders found rest
    | .error _ => (t.put place name .folder, none)

/-- Makes a file under a name in a place.  A link there is followed to where the file belongs. -/
def makeFile (t : Tree) (place : Place) (name : String) : (links : Nat) → Tree
  | 0 => t.put place name .file
  | links + 1 =>
    match t.child? place name with
    | some (_, .link target) =>
      let parts := (Text.split '/' target.toList).map String.ofList
      match t.walk links (linkStart place target) parts.dropLast, parts.getLast? with
      | .ok found, some last => t.makeFile found last links
      | _, _ => t
    | _ => t.put place name .file

/-- The tree with a node at a path, and the folders above it. -/
def add (t : Tree) (path : String) (node : Node) : Tree :=
  match t.makeFolders (start path) (components path).dropLast, (components path).getLast? with
  | (t, some place), some name =>
    match node with
    | .folder => (t.makeFolders place [name]).1
    | .file => t.makeFile place name maxLinks
    | .link _ => t.put place name node
  | (t, _), _ => t

end Tree

end EditorAssist.Folder
