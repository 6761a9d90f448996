import EditorAssist.Text.Parts

/-! # Words of a source text

A keyword counts only where a word starts: at the start of the text or after a character that is not
a word character.  The readers below look at the head of a text; `firstAtWordStart` tries a reader
at every word start, from the left. -/

namespace EditorAssist.Source

open Text

variable {α : Type}

/-- Splits a keyword and the blanks that must follow it off a text: all those blanks, and what comes
after them. -/
def keyword? (word text : List Char) : Option (List Char × List Char) :=
  match after? word text with
  | none => none
  | some rest =>
    match rest.takeWhile isBlank with
    | [] => none
    | blanks => some (blanks, rest.dropWhile isBlank)

/-- The name at the head of a text, as long as it can be.  No name starts with a digit. -/
def name? : List Char → Option (List Char)
  | [] => none
  | c :: rest => if isNameStart c then some (c :: rest.takeWhile isNameChar) else none

/-- Nothing follows, or only one line break that ends the text. -/
def endsText : List Char → Bool
  | [] => true
  | ['\n'] => true
  | _ => false

/-- What `read` finds at the first word start where it finds something.  `before` is the character
that stands before the text. -/
def firstAtWordStart (read : List Char → Option α) (before : Option Char) :
    List Char → Option α
  | [] => none
  | c :: rest =>
    match (if startsWord before then read (c :: rest) else none) with
    | some found => some found
    | none => firstAtWordStart read (some c) rest

end EditorAssist.Source
