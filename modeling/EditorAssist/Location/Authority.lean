import EditorAssist.Location.Address
import EditorAssist.Text.Quoted

/-! # Authorities

The authority of a location names a machine.  An authority with square brackets names it by its
address: the brackets stand around the host, and the host is no dotted address.  No authority holds
a character that spells a delimiter in another form.

* `checkAuthority`: refuses the authorities that name no machine, and says why. -/

namespace EditorAssist.Location

open Text

/-- Why an authority names no machine. -/
inductive Fault where
  /-- A bracket without its partner, or text between a bracket and the ends of the host. -/
  | strayBracket
  /-- The version of an address is not followed by a dot and more. -/
  | malformedFuture
  /-- A dotted address where brackets are used. -/
  | bracketedIPv4
  /-- The host is no address where brackets are used. -/
  | notAddress (host : String)
  /-- A character of the authority spells a delimiter. -/
  | disguisedDelimiter (authority : String)
deriving Repr, DecidableEq

/-- Says what is wrong. -/
def Fault.message : Fault → String
  | .strayBracket => "Invalid IPv6 URL"
  | .malformedFuture => "IPvFuture address is invalid"
  | .bracketedIPv4 => "An IPv4 address cannot be in brackets"
  | .notAddress host => quoted host ++ " does not appear to be an IPv4 or IPv6 address"
  | .disguisedDelimiter authority =>
    "netloc '" ++ authority ++ "' contains invalid characters under NFKC normalization"

/-! ### Hosts -/

/-- What follows the last at sign, or all. -/
def hostAndPort (authority : List Char) : List Char :=
  (authority.reverse.takeWhile (· ≠ '@')).reverse

/-- The host without its brackets.  Nothing stands before the opening bracket, and after the closing
one a colon comes first. -/
def bareHost (text : List Char) : Except Fault (List Char) :=
  match text.takeWhile (· ≠ '['), text.dropWhile (· ≠ '[') with
  | host, [] => .ok (host.takeWhile (· ≠ ':'))
  | _ :: _, _ :: _ => .error .strayBracket
  | [], _ :: inner =>
    match inner.dropWhile (· ≠ ']') with
    | [] | [_] | _ :: ':' :: _ => .ok (inner.takeWhile (· ≠ ']'))
    | _ => .error .strayBracket

/-- The host is a long address, or an address of a version to come. -/
def checkHost (host : List Char) : Except Fault Unit :=
  if host.head? = some 'v' then if isFuture host then .ok () else .error .malformedFuture
  else if isIPv4 host then .error .bracketedIPv4
  else if isIPv6 host then .ok ()
  else .error (.notAddress (String.ofList host))

/-- An authority with brackets has both of them, and they stand around an address. -/
def checkBrackets (authority : List Char) : Except Fault Unit :=
  match authority.contains '[', authority.contains ']' with
  | false, false => .ok ()
  | true, true => (bareHost (hostAndPort authority)).bind checkHost
  | _, _ => .error .strayBracket

/-! ### Disguised delimiters -/

/-- The characters of Unicode 14 beyond ASCII whose compatibility form holds a slash, a question
mark, a number sign, an at sign or a colon, in ascending order. -/
def disguises : List Char := [
  '\u2047', '\u2048', '\u2049', '\u2100', '\u2101', '\u2105', '\u2106', '\u2a74', '\ufe13',
  '\ufe16', '\ufe55', '\ufe56', '\ufe5f', '\ufe6b', '\uff03', '\uff0f', '\uff1a', '\uff1f',
  '\uff20']

/-- Refuses the authorities that name no machine.  The brackets are looked at first. -/
def checkAuthority (authority : List Char) : Except Fault Unit :=
  match checkBrackets authority with
  | .error fault => .error fault
  | .ok () =>
    if authority.any disguises.contains then
      .error (.disguisedDelimiter (String.ofList authority))
    else .ok ()

/-- A location without an authority is not refused. -/
@[simp] theorem checkAuthority_nil : checkAuthority [] = .ok () := rfl

end EditorAssist.Location
