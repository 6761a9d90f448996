import EditorAssist.Text.Parts

/-! # Quoted texts

A text is quoted so that it fits on one line and its ends show: the quotes, the backslash and every
character that is not shown are spelled out. -/

namespace EditorAssist.Text

/-- The code in lower-case hexadecimal, filled with zeros to `width` digits. -/
def hexCode (width code : Nat) : List Char :=
  let digits := Nat.toDigits 16 code
  List.replicate (width - digits.length) '0' ++ digits

/-- The code of a character that is not shown: two, four or eight digits, the fewest that hold it. -/
def spellCode (c : Char) : List Char :=
  if c.toNat < 0x100 then '\\' :: 'x' :: hexCode 2 c.toNat
  else if c.toNat < 0x10000 then '\\' :: 'u' :: hexCode 4 c.toNat
  else '\\' :: 'U' :: hexCode 8 c.toNat

/-- One character inside quotes of the given kind. -/
def spellChar (quote c : Char) : List Char :=
  if c = quote || c = '\\' then ['\\', c]
  else if c = '\n' then ['\\', 'n']
  else if c = '\t' then ['\\', 't']
  else if c = '\r' then ['\\', 'r']
  else if isShown c then [c]
  else spellCode c

/-- Single quotes, unless the text holds them and no double quotes. -/
def quoteFor (text : List Char) : Char :=
  if text.contains '\'' && !text.contains '"' then '"' else '\''

/-- The text between quotes, on one line. -/
def quoted (text : String) : String :=
  let quote := quoteFor text.toList
  String.ofList (quote :: (text.toList.flatMap (spellChar quote) ++ [quote]))

end EditorAssist.Text
