import EditorAssist.Text.Character

/-! # Literals and comments

A quote of either kind opens a literal that only the same quote closes; a literal may hold anything
else, line breaks included.  Two slashes outside literals open a comment.

* `openQuote`: the quote of the literal that is still open at the end of a text, when comments are
  not looked for;
* `opensComment`: whether two slashes stand outside every literal;
* `inLiteralOrComment`: one of the two. -/

namespace EditorAssist.Source

open Text

/-- The quote that is open at the end of the text, from the one that is open before it. -/
def openQuote : Option Char → List Char → Option Char
  | quote, [] => quote
  | none, c :: rest => openQuote (if isQuote c then some c else none) rest
  | some quote, c :: rest => openQuote (if c = quote then none else some quote) rest

/-- Two slashes stand outside every literal, counted from the quote that is open before the text. -/
def opensComment : Option Char → List Char → Bool
  | _, [] => false
  | some quote, c :: rest => opensComment (if c = quote then none else some quote) rest
  | none, c :: rest =>
    if isQuote c then opensComment (some c) rest
    else if c = '/' && rest.head? = some '/' then true
    else opensComment none rest

/-- The end of the text lies in an open literal or in a comment. -/
def inLiteralOrComment (text : List Char) : Bool :=
  (openQuote none text).isSome || opensComment none text

end EditorAssist.Source
