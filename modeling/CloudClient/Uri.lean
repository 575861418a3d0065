import CloudClient.Number.Integer
import CloudClient.Text.Case
import CloudClient.Text.Quoted
import CloudClient.Uri.Address

/-!
# Locators

A locator names a scheme, the authority that answers, and a path. Reading one checks the brackets
of the authority and its characters; the port is checked only when it is asked for.
-/

namespace CloudClient

/-- A locator in its parts. -/
structure Uri where
  scheme : String
  authority : String
  path : String
  query : String
  fragment : String
  deriving DecidableEq, Repr, Inhabited

/-- The ways in which a locator is not well formed. -/
inductive UriError where
  /-- Only one kind of square bracket stands in the authority. -/
  | unbalancedBrackets
  /-- Something stands before the bracketed host, or something other than a port after it. -/
  | textBesideBrackets
  /-- A bracketed host that begins with a letter v has no version or no address. -/
  | futureAddress
  /-- A bracketed host is no numeric address. -/
  | notAnAddress (host : String)
  /-- A bracketed host is four decimal numbers, which take no brackets. -/
  | dottedAddress
  /-- A character of the authority stands for one that would end it. -/
  | foldedSeparator (authority : String)
  /-- The port is not made of digits. -/
  | portNotDigits (port : String)
  /-- The port has too many digits to be read. -/
  | portTooLong (error : IntegerError)
  /-- The port is above 65535. -/
  | portOutOfRange
  deriving DecidableEq, Repr

namespace UriError

/-- The text of an error in a locator. -/
def message : UriError → String
  | unbalancedBrackets | textBesideBrackets => "Invalid IPv6 URL"
  | futureAddress => "IPvFuture address is invalid"
  | notAnAddress host =>
    s!"{Text.quoted host} does not appear to be an IPv4 or IPv6 address"
  | dottedAddress => "An IPv4 address cannot be in brackets"
  | foldedSeparator authority =>
    s!"netloc '{authority}' contains invalid characters under NFKC normalization"
  | portNotDigits port =>
    s!"Port could not be cast to integer value as {Text.quoted port}"
  | portTooLong error => error.message
  | portOutOfRange => "Port out of range 0-65535"

end UriError

namespace Uri

/-! ## Reading -/

/-- A letter of ASCII. -/
def isAsciiLetter (c : Char) : Bool :=
  ('a' ≤ c && c ≤ 'z') || ('A' ≤ c && c ≤ 'Z')

/-- A character that may stand in a scheme. -/
def isSchemeChar (c : Char) : Bool :=
  isAsciiLetter c || Text.isAsciiDigit c || c == '+' || c == '-' || c == '.'

/-- Drops what readers of locators ignore: controls and spaces in front, and tabs and line ends
anywhere. -/
def tidy (s : List Char) : List Char :=
  (s.dropWhile fun c => c.toNat ≤ 0x20).filter fun c => c != '\t' && c != '\r' && c != '\n'

/-- The scheme, which ends at the first colon, and the rest. A text without a proper scheme has
an empty one. -/
def cutScheme (s : List Char) : List Char × List Char :=
  match Text.cut ':' s with
  | (c :: r, some rest) =>
    if isAsciiLetter c && (c :: r).all isSchemeChar then (Text.lower (c :: r), rest) else ([], s)
  | _ => ([], s)

/-- A character that ends an authority. -/
def endsAuthority (c : Char) : Bool := c == '/' || c == '?' || c == '#'

/-- The authority, which follows two slashes, and the rest. -/
def cutAuthority : List Char → List Char × List Char
  | '/' :: '/' :: r =>
    (r.takeWhile fun c => !endsAuthority c, r.dropWhile fun c => !endsAuthority c)
  | s => ([], s)

/-- The characters whose compatibility form holds one of the separators of an authority. -/
def foldedSeparators : List Nat :=
  [0x2047, 0x2048, 0x2049, 0x2100, 0x2101, 0x2105, 0x2106, 0x2A74, 0xFE13, 0xFE16, 0xFE55,
    0xFE56, 0xFE5F, 0xFE6B, 0xFF03, 0xFF0F, 0xFF1A, 0xFF1F, 0xFF20]

/-- A bracketed host is a numeric address that needs brackets. -/
def checkBracketed (host : List Char) : Except UriError Unit :=
  if host.head? = some 'v' then
    if Address.isFuture host then .ok () else .error .futureAddress
  else if Address.isDotted host then .error .dottedAddress
  else if Address.isColonHex host then .ok ()
  else .error (.notAnAddress (String.ofList host))

/-- The host of an authority with brackets, which follows the user information and which nothing
but a port follows. Brackets of the user information alone leave a plain host. -/
def bracketedHost (authority : List Char) : Except UriError (List Char) :=
  let hostInfo := (Text.cutLast '@' authority).2
  match Text.cut '[' hostInfo with
  | (before, some bracketed) =>
    let (host, after) := Text.cut ']' bracketed
    let port := after.getD []
    if before.isEmpty && (port.isEmpty || port.head? == some ':') then .ok host
    else .error .textBesideBrackets
  | (_, none) => .ok (Text.cut ':' hostInfo).1

/-- Both kinds of bracket stand in the authority or none does, and the bracketed host is an
address. -/
def checkBrackets (authority : List Char) : Except UriError Unit := do
  if authority.contains '[' != authority.contains ']' then throw .unbalancedBrackets
  if authority.contains '[' then checkBracketed (← bracketedHost authority)

/-- No character of the authority stands for a separator. -/
def checkFolded (authority : List Char) : Except UriError Unit :=
  if authority.any fun c => foldedSeparators.contains c.toNat then
    .error (.foldedSeparator (String.ofList authority))
  else .ok ()

/-- Reads a locator. -/
def read (s : String) : Except UriError Uri := do
  let (scheme, rest) := cutScheme (tidy s.toList)
  let (authority, rest) := cutAuthority rest
  checkBrackets authority
  let (rest, fragment) := Text.cut '#' rest
  let (path, query) := Text.cut '?' rest
  checkFolded authority
  return {
    scheme := String.ofList scheme
    authority := String.ofList authority
    path := String.ofList path
    query := String.ofList (query.getD [])
    fragment := String.ofList (fragment.getD []) }

/-! ## Host and port -/

/-- The host and the port as the authority writes them, without user information and without
brackets. -/
def hostAndPort (u : Uri) : List Char × List Char :=
  let hostInfo := (Text.cutLast '@' u.authority.toList).2
  match Text.cut '[' hostInfo with
  | (_, some bracketed) =>
    let (host, rest) := Text.cut ']' bracketed
    (host, (Text.cut ':' (rest.getD [])).2.getD [])
  | (_, none) =>
    let (host, port) := Text.cut ':' hostInfo
    (host, port.getD [])

/-- The host in lower case; a zone after a percent sign keeps its case. -/
def host (u : Uri) : String :=
  let (name, zone) := Text.cut '%' u.hostAndPort.1
  String.ofList (Text.lower name ++ (match zone with | none => [] | some z => '%' :: z))

/-- The port, when the authority has one. -/
def port (u : Uri) : Except UriError (Option Nat) :=
  let written := u.hostAndPort.2
  if written.isEmpty then .ok none
  else if !written.all Text.isAsciiDigit then
    .error (.portNotDigits (String.ofList written))
  else
    match Number.readInt written with
    | .error e => .error (.portTooLong e)
    | .ok n => if n ≤ 65535 then .ok (some n.toNat) else .error .portOutOfRange

end Uri

end CloudClient
