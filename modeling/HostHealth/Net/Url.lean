import HostHealth.Net.DottedNumbers

/- Absolute web addresses in their standard form. The schemes of the web have a host and at
   least the path `/`, and a backslash is a slash to them; any other scheme may go without.
   Whoever logs in is left out. Host names are held in ASCII only. -/
namespace HostHealth.Net

open Text

structure Url where
  scheme : List Char
  host : Option (List Char)
  port : Option Nat
  path : List Char
  query : Option (List Char)
  fragment : Option (List Char)
  deriving DecidableEq, Repr

namespace Url

inductive Kind
  | web (defaultPort : Nat)
  | file
  | other
  deriving DecidableEq, Repr

def kind (scheme : List Char) : Kind :=
  match String.ofList scheme with
  | "http" | "ws" => .web 80
  | "https" | "wss" => .web 443
  | "ftp" => .web 21
  | "file" => .file
  | _ => .other

/-! Percent encoding -/

def upperHex (n : Nat) : Char := (hexChar n).toUpper

def percent (byte : UInt8) : List Char :=
  ['%', upperHex (byte.toNat / 16), upperHex (byte.toNat % 16)]

/-- The characters of `reserved`, controls and everything beyond ASCII are written as their
    bytes in UTF-8. -/
def encode (reserved : List Char) (text : List Char) : List Char :=
  text.flatMap fun c =>
    if c < ' ' ∨ '~' < c ∨ c ∈ reserved then (String.utf8EncodeChar c).flatMap percent else [c]

def fragmentReserved : List Char := [' ', '"', '<', '>', '\x60']

def pathReserved : List Char := fragmentReserved ++ ['#', '?', '^', '\x7b', '\x7d']

def queryReserved : Kind → List Char
  | .web _ | .file => [' ', '"', '#', '<', '>', '\'']
  | .other => [' ', '"', '#', '<', '>']

def decode : List Char → List UInt8
  | '%' :: a :: b :: rest =>
    match hexDigit? a, hexDigit? b with
    | some high, some low => UInt8.ofNat (high * 16 + low) :: decode rest
    | _, _ => '%'.toUInt8 :: decode (a :: b :: rest)
  | c :: rest => String.utf8EncodeChar c ++ decode rest
  | [] => []

/-! Hosts -/

def isForbidden (c : Char) : Bool :=
  c ∈ ['\x00', '\t', '\n', '\r', ' ', '#', '/', ':', '<', '>', '?', '@', '[', '\\', ']', '^', '|']

def isForbiddenInName (c : Char) : Bool := isForbidden c || c < ' ' || c == '%' || '~' < c

/-- Whether the last of the parts makes the host a number. -/
def isNumeric (last : List Char) : Bool :=
  (!last.isEmpty && last.all Char.isDigit) || (DottedNumbers.readNumber last).isSome
    || last == ['0', 'x'] || last == ['0', 'X']

def hostParts (host : List Char) : List (List Char) :=
  match (pieces (· == '.') host).reverse with
  | [] :: rest@(_ :: _) => rest.reverse
  | parts => parts.reverse

/-- Numbers between points. Digits may be missing after `0x`. -/
def readIpv4 (parts : List (List Char)) : Option Ipv4 :=
  Ipv4.readNumbers <| ['.'].intercalate <| parts.map fun part =>
    if part == ['0', 'x'] || part == ['0', 'X'] then ['0'] else part

def asciiName (bytes : List UInt8) : Option (List Char) :=
  if bytes.all (· < 128) then some (lowerAscii (bytes.map fun b => Char.ofNat b.toNat)) else none

def readName (text : List Char) : Option (List Char) := do
  let name ← asciiName (decode text)
  if name.isEmpty || name.any isForbiddenInName then none
  else
    let parts := hostParts name
    if isNumeric (parts.getLast?.getD []) then return (← readIpv4 parts).chars else return name

/-- Addresses of version 6 stand in brackets. Outside the web a host is any text. -/
def readHost (kind : Kind) (text : List Char) : Option (List Char) :=
  match text with
  | '[' :: rest => do
    let inside ← dropLast? ']' rest
    return '[' :: Ipv6.gapped (← Ipv6.readChars inside).groups ++ [']']
  | text =>
    match kind with
    | .other => if text.any isForbidden then none else some (encode [] text)
    | _ => readName text

def cutPort (bracketed : Bool) : List Char → List Char × Option (List Char)
  | [] => ([], none)
  | c :: rest =>
    if c = ':' ∧ !bracketed then ([], some rest)
    else
      let inside := c = '[' ∨ bracketed ∧ c ≠ ']'
      let (host, port) := cutPort inside rest
      (c :: host, port)

def readPort (kind : Kind) : Option (List Char) → Option (Option Nat)
  | none | some [] => some none
  | some text => do
    let n ← readBelow 65536 text
    return if kind = .web n then none else some n

def readAuthority (kind : Kind) (text : List Char) :
    Option (List Char × Option Nat) := do
  let (hasLogin, text) := match cutLast '@' text with
    | some (_, rest) => (true, rest)
    | none => (false, text)
  let (host, port) := cutPort false text
  if host.isEmpty then
    if kind = .other ∧ !hasLogin ∧ port.isNone then return ([], none) else none
  else return (← readHost kind host, ← readPort kind port)

/-! Paths -/

def isSlash (kind : Kind) (c : Char) : Bool := c == '/' || (kind != .other && c == '\\')

/-- Whether a segment is so many points, each of which may be encoded. -/
def isPoints : Nat → List Char → Bool
  | 0, text => text.isEmpty
  | n + 1, '.' :: rest => isPoints n rest
  | n + 1, '%' :: '2' :: e :: rest => (e == 'e' || e == 'E') && isPoints n rest
  | _ + 1, _ => false

/-- The segments without those that stand for this one or the one before it. -/
def resolveSegments (done : List (List Char)) : List (List Char) → List (List Char)
  | [] => done
  | segment :: rest =>
    let ending := if rest.isEmpty then [[]] else []
    if isPoints 2 segment then resolveSegments (done.dropLast ++ ending) rest
    else if isPoints 1 segment then resolveSegments (done ++ ending) rest
    else resolveSegments (done ++ [encode pathReserved segment]) rest

def joinSegments (segments : List (List Char)) : List Char := segments.flatMap ('/' :: ·)

def readPath (kind : Kind) (text : List Char) : List Char :=
  let text := match text with
    | c :: rest => if isSlash kind c then rest else c :: rest
    | [] => []
  joinSegments (resolveSegments [] (pieces (isSlash kind) text))

/-! Whole addresses -/

def isSchemeChar (c : Char) : Bool := c.isAlphanum || c == '+' || c == '-' || c == '.'

def cutScheme (text : List Char) : Option (List Char × List Char) := do
  let (front, rest) ← cutFirst ':' text
  match front with
  | first :: _ =>
    if first.isAlpha ∧ front.all isSchemeChar then return (lowerAscii front, rest) else none
  | [] => none

def cutTail (mark : Char) (text : List Char) : List Char × Option (List Char) :=
  match cutFirst mark text with
  | some (front, tail) => (front, some tail)
  | none => (text, none)

def readBody (kind : Kind) (body : List Char) :
    Option (Option (List Char) × Option Nat × List Char) :=
  match kind, body with
  | .web _, _ => do
    let (authority, path) := (body.dropWhile (isSlash kind)).span (!isSlash kind ·)
    let (host, port) ← readAuthority kind authority
    return (some host, port, readPath kind path)
  | .file, a :: b :: rest =>
    if isSlash kind a ∧ isSlash kind b then do
      let (authority, path) := rest.span (!isSlash kind ·)
      let host ← if authority.isEmpty then some [] else readHost kind authority
      return (if host = "localhost".toList then some [] else some host, none, readPath kind path)
    else some (some [], none, readPath kind body)
  | .file, _ => some (some [], none, readPath kind body)
  | .other, '/' :: '/' :: rest => do
    let (authority, path) := rest.span (!isSlash kind ·)
    let (host, port) ← readAuthority kind authority
    return (some host, port, if path.isEmpty then [] else readPath kind path)
  | .other, '/' :: _ => some (none, none, readPath kind body)
  | .other, _ => some (none, none, encode [] body)

/-- Blanks and controls around the text do not count, nor do line ends and tabs within. -/
def clean (text : List Char) : List Char :=
  let trimmed := ((text.dropWhile (· ≤ ' ')).reverse.dropWhile (· ≤ ' ')).reverse
  trimmed.filter fun c => c ≠ '\t' ∧ c ≠ '\n' ∧ c ≠ '\r'

def read (text : String) : Option Url := do
  let (scheme, rest) ← cutScheme (clean text.toList)
  let kind := kind scheme
  let (rest, fragment) := cutTail '#' rest
  let (body, query) := cutTail '?' rest
  let (host, port, path) ← readBody kind body
  return {
    scheme := scheme
    host := host
    port := port
    path := path
    query := query.map (encode (queryReserved kind))
    fragment := fragment.map (encode fragmentReserved) }

/-- A path that starts with two slashes cannot follow the scheme as it is. -/
def separator (url : Url) : List Char :=
  match url.host, url.path with
  | some host, _ => '/' :: '/' :: host ++ ((url.port.map fun n => ':' :: digits n).getD [])
  | none, '/' :: '/' :: _ => ['/', '.']
  | none, _ => []

def chars (url : Url) : List Char :=
  url.scheme ++ ':' :: url.separator ++ url.path
    ++ (url.query.map ('?' :: ·)).getD [] ++ (url.fragment.map ('#' :: ·)).getD []

def text (url : Url) : String := String.ofList url.chars

def isHttp (url : Url) : Bool := url.scheme == "http".toList || url.scheme == "https".toList

end Url
end HostHealth.Net
