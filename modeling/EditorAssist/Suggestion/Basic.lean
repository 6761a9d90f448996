/-! # Suggestions

A suggestion is something that the editor may put in at the cursor.  It is listed under its label,
and what is put in when it is taken is a text of its own. -/

namespace EditorAssist

namespace Suggestion

/-- What is suggested. -/
inductive Kind where
  | functionName
  | variableName
  | className
  | moduleName
  | keyword
  | file
  | folder
deriving Repr, DecidableEq

namespace Kind

/-- The number by which an editor knows the kind. -/
def number : Kind → Nat
  | .functionName => 3
  | .variableName => 6
  | .className => 7
  | .moduleName => 9
  | .keyword => 14
  | .file => 17
  | .folder => 19

end Kind

end Suggestion

/-- Something that the editor may put in at the cursor. -/
structure Suggestion where
  label : String
  kind : Suggestion.Kind
  detail : Option String
  /-- What is put in when the suggestion is taken. -/
  insertText : String
  documentation : Option String
deriving Repr, DecidableEq

end EditorAssist
