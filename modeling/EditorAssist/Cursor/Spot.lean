import EditorAssist.Source.Literal
import EditorAssist.Source.Word
import EditorAssist.Text.Quoted

/-! # Where the cursor stands

What may be suggested depends on the text before the cursor on its line.  Four detectors look at
that text, each by itself; several of them can hold at once, and the first in the order of
`Spot.ofText` wins.

* `namesDeclaration`: a name is being declared, so nothing is suggested for it;
* `inImportPath`: the quoted argument of `import(` is open;
* `inLiteralOrComment`: any other literal is open, or a comment;
* `receiver?`: the name before a final dot. -/

namespace EditorAssist

open Text Source

/-! ### Detectors -/

namespace Cursor

/-- A possibly empty run of name characters that ends the text. -/
def namesToEnd (text : List Char) : Bool := endsText (text.dropWhile isNameChar)

/-- A keyword of a declaration, blanks, and the name that ends the text.  After `let`, `const` and
further blanks may come first. -/
def declaresToEnd (text : List Char) : Bool :=
  match keyword? ['l', 'e', 't'] text with
  | some (_, rest) =>
    namesToEnd rest ||
      (keyword? ['c', 'o', 'n', 's', 't'] rest).any fun found => namesToEnd found.2
  | none =>
    (keyword? ['f', 'u', 'n', 'c'] text).any (fun found => namesToEnd found.2) ||
      (keyword? ['c', 'l', 'a', 's', 's'] text).any fun found => namesToEnd found.2

/-- The cursor stands on the name of a new declaration. -/
def namesDeclaration (text : List Char) : Bool :=
  (firstAtWordStart (fun rest => if declaresToEnd rest then some () else none) none text).isSome

/-- The character opens the text, blanks before it aside; what comes after it. -/
def afterBlanks? (c : Char) (text : List Char) : Option (List Char) :=
  after? [c] (text.dropWhile isBlank)

/-- `import`, an opening bracket and a quote, blanks between them aside, and no later quote. -/
def importsToEnd (text : List Char) : Bool :=
  match (after? ['i', 'm', 'p', 'o', 'r', 't'] text).bind (afterBlanks? '(') with
  | none => false
  | some rest =>
    match rest.dropWhile isBlank with
    | [] => false
    | quote :: path => isQuote quote && path.all fun c => !isQuote c

/-- The cursor stands in the quoted argument of an import. -/
def inImportPath (text : List Char) : Bool :=
  (firstAtWordStart (fun rest => if importsToEnd rest then some () else none) none text).isSome

/-- A name at the head of the text, and a dot that ends it. -/
def receiverToEnd? (text : List Char) : Option (List Char) :=
  match name? text with
  | none => none
  | some name =>
    match text.drop name.length with
    | '.' :: rest => if endsText rest then some name else none
    | _ => none

/-- The name before a dot that ends the text. -/
def receiver? (text : List Char) : Option (List Char) :=
  firstAtWordStart receiverToEnd? none text

end Cursor

/-! ### Spots -/

/-- What the cursor stands on. -/
inductive Spot where
  /-- The name of a new declaration. -/
  | declaration
  /-- A literal that is no import path, or a comment. -/
  | literalOrComment
  /-- The path of an import. -/
  | importPath
  /-- Right after a name and a dot. -/
  | member (receiver : String)
  /-- Anything else. -/
  | general
deriving Repr, DecidableEq

namespace Spot

/-- The spot at the end of the text. -/
def ofText (text : String) : Spot :=
  if Cursor.namesDeclaration text.toList then .declaration
  else if Cursor.inImportPath text.toList then .importPath
  else if inLiteralOrComment text.toList then .literalOrComment
  else match Cursor.receiver? text.toList with
    | some name => .member (String.ofList name)
    | none => .general

/-- Nothing is ever suggested here. -/
def isSuppressed : Spot → Bool
  | .declaration | .literalOrComment => true
  | _ => false

/-- The name of a spot in messages. -/
def title : Spot → String
  | .declaration => "declaration"
  | .literalOrComment => "string_or_comment"
  | .importPath => "import_path"
  | .member _ => "module_member"
  | .general => "general"

/-- The name before the dot, for a spot that has one. -/
def receiver? : Spot → Option String
  | .member receiver => some receiver
  | _ => none

/-- A title that no spot has. -/
structure UnknownTitle where
  title : String
deriving Repr, DecidableEq

/-- Says which title no spot has. -/
def UnknownTitle.message (e : UnknownTitle) : String :=
  quoted e.title ++ " is not a valid ContextKind"

/-- The spot with the given title; `receiver` is used where there is a dot. -/
def ofTitle (title receiver : String) : Except UnknownTitle Spot :=
  match title with
  | "declaration" => .ok .declaration
  | "string_or_comment" => .ok .literalOrComment
  | "import_path" => .ok .importPath
  | "module_member" => .ok (.member receiver)
  | "general" => .ok .general
  | _ => .error ⟨title⟩

end Spot

end EditorAssist
