import HostHealth.Json.Basic
import HostHealth.Text.Decimal

/- Reading JSON text, strictly: one value, blanks around its tokens, nothing after it. -/
namespace HostHealth.Json

open Text

namespace Reader

def skipBlanks : List Char → List Char
  | c :: rest => if c = ' ' ∨ c = '\t' ∨ c = '\n' ∨ c = '\r' then skipBlanks rest else c :: rest
  | [] => []

def isDigit (c : Char) : Bool := '0' ≤ c && c ≤ '9'

def digitRun (text : List Char) : Option (List Char × List Char) :=
  match text.span isDigit with
  | ([], _) => none
  | (run, rest) => some (run, rest)

def wholeRun (text : List Char) : Option (List Char × List Char) :=
  match digitRun text with
  | some ('0' :: _ :: _, _) => none
  | run => run

def fraction : List Char → Option (List Char × List Char)
  | '.' :: rest => (digitRun rest).map fun (run, rest) => ('.' :: run, rest)
  | rest => some ([], rest)

def exponentDigits (mark : List Char) (text : List Char) : Option (List Char × List Char) :=
  (digitRun text).map fun (run, rest) => (mark ++ run, rest)

def exponent : List Char → Option (List Char × List Char)
  | c :: rest =>
    if c = 'e' ∨ c = 'E' then
      match rest with
      | '+' :: rest => exponentDigits [c, '+'] rest
      | '-' :: rest => exponentDigits [c, '-'] rest
      | rest => exponentDigits [c] rest
    else some ([], c :: rest)
  | [] => some ([], [])

def number (sign text : List Char) : Option (Json × List Char) := do
  let (whole, rest) ← wholeRun text
  let (part, rest) ← fraction rest
  let (power, rest) ← exponent rest
  if sign.isEmpty && part.isEmpty && power.isEmpty then
    return (.natural (← readNat whole), rest)
  else return (.numeral (String.ofList (sign ++ whole ++ part ++ power)), rest)

def isHigh (n : Nat) : Bool := 0xD800 ≤ n && n < 0xDC00

def isLow (n : Nat) : Bool := 0xDC00 ≤ n && n < 0xE000

/-- The characters of a row of code points in which surrogates come in pairs. -/
def pairUp : List Nat → Option (List Char)
  | [] => some []
  | high :: low :: rest =>
    if isHigh high then
      if isLow low then
        (pairUp rest).map (Char.ofNat (0x10000 + (high - 0xD800) * 0x400 + (low - 0xDC00)) :: ·)
      else none
    else if isLow high then none
    else (pairUp (low :: rest)).map (Char.ofNat high :: ·)
  | [n] => if isHigh n || isLow n then none else some [Char.ofNat n]

def escape? : Char → Option Char
  | '"' => some '"'
  | '\\' => some '\\'
  | '/' => some '/'
  | 'b' => some '\x08'
  | 'f' => some '\x0c'
  | 'n' => some '\n'
  | 'r' => some '\r'
  | 't' => some '\t'
  | _ => none

def codePoints : List Char → Option (List Nat × List Char)
  | '"' :: rest => some ([], rest)
  | '\\' :: 'u' :: a :: b :: c :: d :: rest => do
    let code ← readDigits 16 hexDigit? [a, b, c, d]
    let (codes, rest) ← codePoints rest
    return (code :: codes, rest)
  | '\\' :: c :: rest => do
    let code ← escape? c
    let (codes, rest) ← codePoints rest
    return (code.toNat :: codes, rest)
  | c :: rest => do
    if c < ' ' then none
    else
      let (codes, rest) ← codePoints rest
      return (c.toNat :: codes, rest)
  | [] => none

def string (text : List Char) : Option (Json × List Char) :=
  (codePoints text).map fun (codes, rest) =>
    match pairUp codes with
    | some chars => (.text (String.ofList chars), rest)
    | none => (.unpaired, rest)

def name : List Char → Option (String × List Char)
  | '"' :: front => do
    let (codes, rest) ← codePoints front
    match skipBlanks rest with
    | ':' :: rest => return (String.ofList (← pairUp codes), skipBlanks rest)
    | _ => none
  | _ => none

mutual

/-- One value at the front of the text. The depth of the calls is bounded by `fuel`; each
    level takes at least one character. -/
def value (fuel : Nat) (text : List Char) : Option (Json × List Char) :=
  match fuel, text with
  | 0, _ => none
  | _, 'n' :: 'u' :: 'l' :: 'l' :: rest => some (.null, rest)
  | _, 't' :: 'r' :: 'u' :: 'e' :: rest => some (.bool true, rest)
  | _, 'f' :: 'a' :: 'l' :: 's' :: 'e' :: rest => some (.bool false, rest)
  | _, '"' :: rest => string rest
  | _, '-' :: rest => number ['-'] rest
  | fuel + 1, '[' :: rest =>
    match skipBlanks rest with
    | ']' :: rest => some (.array [], rest)
    | rest => (items fuel rest).map fun (found, rest) => (.array found, rest)
  | fuel + 1, '\x7b' :: rest =>
    match skipBlanks rest with
    | '\x7d' :: rest => some (.object [], rest)
    | rest => (members fuel rest).map fun (found, rest) => (.object found, rest)
  | _, other => number [] other

def items (fuel : Nat) (text : List Char) : Option (List Json × List Char) :=
  match fuel with
  | 0 => none
  | fuel + 1 => do
    let (item, rest) ← value fuel text
    match skipBlanks rest with
    | ',' :: rest =>
      let (more, rest) ← items fuel (skipBlanks rest)
      return (item :: more, rest)
    | ']' :: rest => return ([item], rest)
    | _ => none

def members (fuel : Nat) (text : List Char) : Option (List (String × Json) × List Char) :=
  match fuel with
  | 0 => none
  | fuel + 1 => do
    let (key, rest) ← name text
    let (item, rest) ← value fuel rest
    match skipBlanks rest with
    | ',' :: rest =>
      let (more, rest) ← members fuel (skipBlanks rest)
      return ((key, item) :: more, rest)
    | '\x7d' :: rest => return ([(key, item)], rest)
    | _ => none

end

end Reader

def read (text : String) : Option Json :=
  let chars := text.toList
  match Reader.value (chars.length + 1) (Reader.skipBlanks chars) with
  | some (json, rest) => if (Reader.skipBlanks rest).isEmpty then some json else none
  | none => none

end HostHealth.Json
