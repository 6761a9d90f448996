import EditorAssist.Location.Authority
import EditorAssist.Location.Percent

/-! # Locations

An editor names folders by locations: a scheme, an authority, a path, and parts that name no place.
`Location.toPath` reads the path that a location stands for on this machine; for a file location
with an authority that is a path on another one. -/

namespace EditorAssist.Location

open Text

/-- The parts of a location that name a place, still escaped. -/
structure Parts where
  scheme : List Char
  authority : List Char
  path : List Char
deriving Repr, DecidableEq

/-! ### Cutting a location into its parts -/

/-- The location without the controls and spaces before it, and without tabs and line breaks. -/
def clean (location : List Char) : List Char :=
  (location.dropWhile fun c => c.toNat ≤ 0x20).filter fun c =>
    c ≠ '\t' ∧ c ≠ '\r' ∧ c ≠ '\n'

/-- A character of a scheme. -/
def isSchemeChar (c : Char) : Bool := c.isAlphanum || c == '+' || c == '-' || c == '.'

/-- The scheme in lower case and what follows its colon.  A text before a colon that does not start
with a letter, or holds anything else, is no scheme. -/
def splitScheme (location : List Char) : List Char × List Char :=
  match location.takeWhile (· ≠ ':'), location.dropWhile (· ≠ ':') with
  | first :: more, _ :: rest =>
    if first.isAlpha && more.all isSchemeChar then ((first :: more).map Char.toLower, rest)
    else ([], location)
  | _, _ => ([], location)

/-- A character that ends the authority. -/
def endsAuthority (c : Char) : Bool := c == '/' || c == '?' || c == '#'

/-- The authority after two slashes, and what follows it. -/
def splitAuthority (text : List Char) : List Char × List Char :=
  match text with
  | '/' :: '/' :: rest =>
    (rest.takeWhile fun c => !endsAuthority c, rest.dropWhile fun c => !endsAuthority c)
  | _ => ([], text)

/-- The schemes whose paths may end in parameters. -/
def schemesWithParameters : List String :=
  ["", "ftp", "hdl", "prospero", "http", "imap", "https", "shttp", "rtsp", "rtspu", "sip", "sips",
    "mms", "sftp", "tel"]

/-- The path without the parameters of its last segment. -/
def dropParameters (path : List Char) : List Char :=
  let last := (path.reverse.takeWhile (· ≠ '/')).reverse
  path.take (path.length - last.length) ++ last.takeWhile (· ≠ ';')

/-- The parts of a location whose authority is not refused. -/
def parts (location : String) : Except Fault Parts :=
  let (scheme, rest) := splitScheme (clean location.toList)
  let (authority, rest) := splitAuthority rest
  (checkAuthority authority).map fun _ =>
    let path := (rest.takeWhile (· ≠ '#')).takeWhile (· ≠ '?')
    let path :=
      if String.ofList scheme ∈ schemesWithParameters then dropParameters path else path
    ⟨scheme, authority, path⟩

/-! ### The path of a location -/

/-- A path that starts with a drive letter loses its slash, and the letter goes to lower case. -/
def localPath (path : List Char) : List Char :=
  match path with
  | '/' :: letter :: ':' :: rest =>
    if letter.isAlpha then letter.toLower :: ':' :: rest else path
  | _ => path

/-- The path that the parts stand for. -/
def Parts.toPath (p : Parts) : List Char :=
  let authority := unescape p.authority
  let path := unescape p.path
  if authority ≠ [] ∧ path ≠ [] ∧ p.scheme = ['f', 'i', 'l', 'e'] then
    '/' :: '/' :: authority ++ path
  else localPath path

/-- The path that a location stands for. -/
def toPath (location : String) : Except Fault String :=
  (parts location).map fun p => String.ofList p.toPath

end EditorAssist.Location
