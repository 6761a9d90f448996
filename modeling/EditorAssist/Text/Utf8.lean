/-! # Reading bytes as UTF-8

The reader takes one byte at a time and is either between two characters or inside one.  A byte that
cannot go on with the character it is in ends that character as U+FFFD and is then read as a first
byte, so every longest piece of a broken character gives one U+FFFD. -/

namespace EditorAssist.Text.Utf8

/-- Where the reader stands. -/
inductive State where
  /-- Between two characters. -/
  | between
  /-- Inside a character: its code so far, how many bytes are to come, and the least and greatest
  value that the next one may have. -/
  | inside (code missing least most : Nat)
deriving Repr, DecidableEq

/-- Stands for bytes that are no character. -/
def replacement : Char := Char.ofNat 0xFFFD

/-- Reads a byte between two characters. -/
def first (byte : Nat) : List Char × State :=
  if byte < 0x80 then ([Char.ofNat byte], .between)
  else if byte < 0xC2 then ([replacement], .between)
  else if byte < 0xE0 then ([], .inside (byte - 0xC0) 1 0x80 0xBF)
  else if byte = 0xE0 then ([], .inside 0 2 0xA0 0xBF)
  else if byte = 0xED then ([], .inside 0xD 2 0x80 0x9F)
  else if byte < 0xF0 then ([], .inside (byte - 0xE0) 2 0x80 0xBF)
  else if byte = 0xF0 then ([], .inside 0 3 0x90 0xBF)
  else if byte < 0xF4 then ([], .inside (byte - 0xF0) 3 0x80 0xBF)
  else if byte = 0xF4 then ([], .inside 4 3 0x80 0x8F)
  else ([replacement], .between)

/-- Reads a byte: the characters that end with it and the state after it. -/
def step : State → Nat → List Char × State
  | .between, byte => first byte
  | .inside code missing least most, byte =>
    if least ≤ byte && byte ≤ most then
      let code := code * 0x40 + (byte - 0x80)
      if missing ≤ 1 then ([Char.ofNat code], .between)
      else ([], .inside code (missing - 1) 0x80 0xBF)
    else
      (replacement :: (first byte).1, (first byte).2)

/-- What a character gives that is cut short, in any state. -/
def flush : State → List Char
  | .between => []
  | .inside .. => [replacement]

end EditorAssist.Text.Utf8
