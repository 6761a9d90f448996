import EditorAssist.Folder.Listing
import EditorAssist.Handbook.Basic
import EditorAssist.Source.Declarations
import EditorAssist.Suggestion.Basic

/-! # Where suggestions come from

Suggestions come from the handbook, from the declarations of the document, and from the folder that
is worked in.  Groups follow each other without being compared, so a user's function with the name
of a documented one is suggested twice.

* `Suggestion.imports`: the modules that can be imported;
* `Suggestion.ofItem?`: a folder or a source file;
* `Suggestion.members`: the members of a module;
* `Suggestion.general`: keywords, documented names, modules, and what the text declares. -/

namespace EditorAssist.Suggestion

open Source

/-- What is put in for a function: its name, with brackets. -/
def callText (name : String) : String := name ++ "()"

/-! ### Import paths -/

/-- A native module, as an import path. -/
def nativeImport (name : String) : Suggestion where
  label := name
  kind := .moduleName
  detail := some "Native Mrya module"
  insertText := name
  documentation := some ("Native built-in module \"" ++ name ++ "\"")

/-- A package, as an import path. -/
def packageImport (path : String) : Suggestion where
  label := path
  kind := .moduleName
  detail := some "Mrya package module"
  insertText := path
  documentation := some ("Package module \"" ++ path ++ "\"")

/-- The native modules and the packages. -/
def imports (h : Handbook) : List Suggestion :=
  h.vocabulary.nativeModules.map nativeImport ++ h.packagePaths.map packageImport

/-- A folder, or a file whose name ends as source files do. -/
def ofItem? (sourceExtension : String) (item : Folder.Item) : Option Suggestion :=
  if item.isFolder then
    some ⟨item.name, .folder, some "Folder", item.name ++ "/", some "Folder in workspace"⟩
  else if sourceExtension.toList.isSuffixOf item.name.toList then
    some ⟨item.name, .file, some "File", item.name, some "Mrya source file"⟩
  else none

/-! ### Members -/

/-- A member of a module. -/
def member (moduleName : String) (e : Entry) : Suggestion where
  label := e.key
  kind := .functionName
  detail := some ("Member of module '" ++ moduleName ++ "'")
  insertText := callText e.key
  documentation := some e.description

/-- The documented members of a module; none for an unknown one. -/
def members (h : Handbook) (moduleName : String) : List Suggestion :=
  (h.members moduleName).map (member moduleName)

/-! ### Everywhere else -/

/-- A keyword, with what the handbook says about it. -/
def keyword (h : Handbook) (word : String) : Suggestion where
  label := word
  kind := .keyword
  detail := none
  insertText := word
  documentation := h.get? word

/-- A documented name that is known everywhere. -/
def builtin (e : Entry) : Suggestion where
  label := e.key
  kind := .functionName
  detail := none
  insertText := callText e.key
  documentation := some e.description

/-- A native module, by its name. -/
def native (name : String) : Suggestion where
  label := name
  kind := .moduleName
  detail := none
  insertText := name
  documentation := some ("Mrya built-in module \"" ++ name ++ "\"")

/-- A variable that the text declares. -/
def userVariable (name : String) : Suggestion :=
  ⟨name, .variableName, some "User variable", name, none⟩

/-- A function that the text declares. -/
def userFunction (name : String) : Suggestion :=
  ⟨name, .functionName, some "User function", callText name, none⟩

/-- A class that the text declares. -/
def userClass (name : String) : Suggestion :=
  ⟨name, .className, some "User class", name, none⟩

/-- The documented names that are known everywhere and are no literals. -/
def builtins (h : Handbook) : List Suggestion :=
  (h.globals.filter fun e => e.key ∉ h.vocabulary.literals).map builtin

/-- What the handbook offers everywhere. -/
def fixed (h : Handbook) : List Suggestion :=
  h.vocabulary.keywords.map (keyword h) ++ builtins h ++ h.vocabulary.nativeModules.map native

/-- What the text declares: variables, then functions, then classes. -/
def declared (declarations : Declarations) : List Suggestion :=
  declarations.variableNames.map userVariable ++ declarations.functionNames.map userFunction ++
    declarations.classNames.map userClass

/-- What is offered where nothing special is expected. -/
def general (h : Handbook) (text : String) : List Suggestion :=
  fixed h ++ declared (Declarations.ofText text)

end EditorAssist.Suggestion
