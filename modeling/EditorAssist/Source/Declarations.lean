import EditorAssist.Source.Word

/-! # Declarations of a source text

A declaration is a keyword at a word start, blanks, and a name.  `let` declares a variable and may
have `const` and blanks before the name, `func` a function and `class` a class.  The names of a text
are collected from the left, and the search goes on after each declared name.

* `Declared.read?`: the declaration of a kind at the head of a text;
* `namesFrom`: the declared names in the order of the text;
* `Declarations.ofText`: the names of each kind, without repeats, in ascending order. -/

namespace EditorAssist.Source

open Text

/-- What a declaration introduces. -/
inductive DeclarationKind where
  | variableName
  | functionName
  | className
deriving Repr, DecidableEq

/-- A declared name and the number of characters from its keyword to its end. -/
structure Declared where
  name : List Char
  width : Nat
deriving Repr, DecidableEq

/-- A keyword, blanks and a name at the head of a text. -/
def Declared.after? (word text : List Char) : Option Declared :=
  match keyword? word text with
  | none => none
  | some (blanks, rest) =>
    (name? rest).map fun name => ⟨name, word.length + blanks.length + name.length⟩

/-- `let` at the head of a text, with `const` where a name still follows it.  Otherwise `const` is
itself the name. -/
def Declared.variable? (text : List Char) : Option Declared :=
  match keyword? ['l', 'e', 't'] text with
  | none => none
  | some (blanks, rest) =>
    match Declared.after? ['c', 'o', 'n', 's', 't'] rest with
    | some constant => some ⟨constant.name, 3 + blanks.length + constant.width⟩
    | none => (name? rest).map fun name => ⟨name, 3 + blanks.length + name.length⟩

/-- The declaration of the kind at the head of a text. -/
def Declared.read? : DeclarationKind → List Char → Option Declared
  | .variableName => Declared.variable?
  | .functionName => Declared.after? ['f', 'u', 'n', 'c']
  | .className => Declared.after? ['c', 'l', 'a', 's', 's']

/-- The names declared in a text, after its first `skip` characters.  `before` is the character that
stands before the text. -/
def namesFrom (kind : DeclarationKind) :
    (skip : Nat) → (before : Option Char) → List Char → List (List Char)
  | _, _, [] => []
  | skip + 1, _, c :: rest => namesFrom kind skip (some c) rest
  | 0, before, c :: rest =>
    match (if startsWord before then Declared.read? kind (c :: rest) else none) with
    | some declared => declared.name :: namesFrom kind (declared.width - 1) (some c) rest
    | none => namesFrom kind 0 (some c) rest

/-- A list without the repeats that stand side by side. -/
def dropRepeats : List String → List String
  | [] => []
  | [name] => [name]
  | name :: next :: rest =>
    if name = next then dropRepeats (next :: rest) else name :: dropRepeats (next :: rest)

/-- Each name once, in ascending order of the characters. -/
def sortedNames (names : List String) : List String :=
  dropRepeats (names.mergeSort fun a b => decide (a ≤ b))

/-- The names of one kind that a text declares, each once and in ascending order. -/
def declaredNames (kind : DeclarationKind) (text : String) : List String :=
  sortedNames ((namesFrom kind 0 none text.toList).map String.ofList)

/-- The names that a text declares, by kind. -/
structure Declarations where
  variableNames : List String
  functionNames : List String
  classNames : List String
deriving Repr, DecidableEq

/-- The declarations of a text. -/
def Declarations.ofText (text : String) : Declarations where
  variableNames := declaredNames .variableName text
  functionNames := declaredNames .functionName text
  classNames := declaredNames .className text

end EditorAssist.Source
