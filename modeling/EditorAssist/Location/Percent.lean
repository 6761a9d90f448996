import EditorAssist.Text.Digit
import EditorAssist.Text.Utf8

/-! # Percent escapes

A percent sign and two hexadecimal digits stand for one byte.  The bytes between two characters
beyond ASCII, escaped or not, are read together as UTF-8; a percent sign that opens no escape stands
for itself. -/

namespace EditorAssist.Location

open Text

/-- A piece of an escaped text: a byte, or a character beyond ASCII that stands for itself. -/
inductive Piece where
  | byte (value : Nat)
  | char (c : Char)
deriving Repr, DecidableEq

/-- The byte that two hexadecimal digits stand for. -/
def escape? (high low : Char) : Option Nat :=
  match hexValue? high, hexValue? low with
  | some high, some low => some (16 * high + low)
  | _, _ => none

/-- A character that is part of no escape. -/
def Piece.ofChar (c : Char) : Piece := if c.toNat < 0x80 then .byte c.toNat else .char c

/-- The pieces of an escaped text. -/
def pieces : List Char → List Piece
  | [] => []
  | '%' :: high :: low :: rest =>
    match escape? high low with
    | some value => .byte value :: pieces rest
    | none => .byte 0x25 :: pieces (high :: low :: rest)
  | c :: rest => Piece.ofChar c :: pieces rest

/-- The characters that the pieces spell, from a state on. -/
def readPieces : Utf8.State → List Piece → List Char
  | state, [] => Utf8.flush state
  | state, .byte value :: rest =>
    (Utf8.step state value).1 ++ readPieces (Utf8.step state value).2 rest
  | state, .char c :: rest => Utf8.flush state ++ c :: readPieces .between rest

/-- The text that an escaped text stands for. -/
def unescape (text : List Char) : List Char := readPieces .between (pieces text)

end EditorAssist.Location
