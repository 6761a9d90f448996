import EditorAssist.Handbook.Table
import EditorAssist.Text.Parts

/-! # The handbook of a language

A handbook holds the fixed words of a language and a documentation table.  A key of the table is a
bare name, for something that is known everywhere, or a module, a dot and a member.  No key has more
dots than one.

* `Handbook.ofTable`: the handbook of a table, or the keys with too many dots;
* `Handbook.globals`, `Handbook.members`: where each entry belongs;
* `Handbook.explain`: the entry that a word under the cursor stands for;
* `Handbook.addPackageModules`: the handbook with further packages. -/

namespace EditorAssist

/-- The fixed words of a language, each list in the order in which it is offered. -/
structure Vocabulary where
  keywords : List String
  nativeModules : List String
  packageModules : List String
  packageNamespace : String
  /-- Documented names that stand for a value. -/
  literals : List String
deriving Repr, DecidableEq

/-- Fixed words and a documentation table whose keys have at most one dot. -/
structure Handbook where
  vocabulary : Vocabulary
  table : Table
  oneDot : ∀ e ∈ table.entries, e.dots ≤ 1

namespace Handbook

/-! ### Making a handbook -/

/-- Keys with more than one dot, in the order of their table. -/
structure DottedKeys where
  keys : List String
deriving Repr, DecidableEq

/-- Names the keys that a handbook cannot have. -/
def DottedKeys.message (e : DottedKeys) : String :=
  "Documentation keys may contain at most one dot: " ++ ", ".intercalate e.keys

/-- The entries of a table whose keys have more than one dot. -/
def dottedEntries (table : Table) : List Entry := table.entries.filter fun e => 1 < e.dots

theorem dots_le_one_of_dottedEntries_eq_nil {table : Table} (h : dottedEntries table = []) :
    ∀ e ∈ table.entries, e.dots ≤ 1 := by
  intro e he
  have := List.filter_eq_nil_iff.mp h e he
  simpa using this

/-- The handbook of a table, if none of its keys has too many dots. -/
def ofTable (vocabulary : Vocabulary) (table : Table) : Except DottedKeys Handbook :=
  if h : dottedEntries table = [] then
    .ok ⟨vocabulary, table, dots_le_one_of_dottedEntries_eq_nil h⟩
  else
    .error ⟨(dottedEntries table).map Entry.key⟩

/-! ### Looking things up -/

/-- The entries in the order of the table. -/
def entries (h : Handbook) : List Entry := h.table.entries

/-- The description of a key. -/
def get? (h : Handbook) (key : String) : Option String := h.table.get? key

/-- The entries whose keys have no dot, in the order of the table. -/
def globals (h : Handbook) : List Entry := h.entries.filter fun e => !e.key.toList.contains '.'

/-- The part of an entry's key after the module and the dot, with its description. -/
def memberOf? (moduleName : String) (e : Entry) : Option Entry :=
  (Text.after? (moduleName.toList ++ ['.']) e.key.toList).map fun member =>
    ⟨String.ofList member, e.description⟩

/-- The members of a module, in the order of the table. -/
def members (h : Handbook) (moduleName : String) : List Entry :=
  h.entries.filterMap (memberOf? moduleName)

/-- The key is the word, or some module, a dot and the word. -/
def names (word : String) (e : Entry) : Bool :=
  e.key = word || ('.' :: word.toList).isSuffixOf e.key.toList

/-- The first entry that the word names.  The empty word names none. -/
def explain (h : Handbook) (word : String) : Option Entry :=
  if word = "" then none else h.entries.find? (names word)

/-! ### Packages -/

/-- The packages as they are written in an import. -/
def packagePaths (h : Handbook) : List String :=
  h.vocabulary.packageModules.map fun name => h.vocabulary.packageNamespace ++ ":" ++ name

/-- The names with those of `extra` that are missing at the end, each once. -/
def appendMissing (names extra : List String) : List String :=
  extra.foldl (fun names name => if name ∈ names then names else names ++ [name]) names

/-- The handbook with further packages. -/
def addPackageModules (h : Handbook) (extra : List String) : Handbook :=
  { h with
    vocabulary :=
      { h.vocabulary with packageModules := appendMissing h.vocabulary.packageModules extra } }

end Handbook

end EditorAssist
