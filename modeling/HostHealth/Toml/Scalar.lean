import HostHealth.Number.Double
import HostHealth.Text.Split
import HostHealth.Toml.Basic

/- The simple values of TOML and its names: strings of four kinds, integers, fractions and
   dates. Each reader takes its value from the front of a text and gives back the rest. -/
namespace HostHealth.Toml.Scalar

open Text

def isPlain (c : Char) : Bool := c == '\t' || (' ' ≤ c && c != '\x7f')

def skipBlanks (text : List Char) : List Char := text.dropWhile fun c => c == ' ' || c == '\t'

def newline? : List Char → Option (List Char)
  | '\n' :: rest => some rest
  | '\r' :: '\n' :: rest => some rest
  | _ => none

/-! Strings -/

def escape? : Char → Option Char
  | '"' => some '"'
  | '\\' => some '\\'
  | 'b' => some '\x08'
  | 't' => some '\t'
  | 'n' => some '\n'
  | 'f' => some '\x0c'
  | 'r' => some '\r'
  | _ => none

/-- The character of a code point in hexadecimal; surrogates have none. -/
def coded? (ds : List Char) : Option Char := do
  let n ← readDigits 16 hexDigit? ds
  if n.isValidChar then return Char.ofNat n else none

def basic : List Char → Option (List Char × List Char)
  | '"' :: rest => some ([], rest)
  | '\\' :: 'u' :: a :: b :: c :: d :: rest => do
    let code ← coded? [a, b, c, d]
    let (chars, rest) ← basic rest
    return (code :: chars, rest)
  | '\\' :: 'U' :: a :: b :: c :: d :: e :: f :: g :: h :: rest => do
    let code ← coded? [a, b, c, d, e, f, g, h]
    let (chars, rest) ← basic rest
    return (code :: chars, rest)
  | '\\' :: c :: rest => do
    let code ← escape? c
    let (chars, rest) ← basic rest
    return (code :: chars, rest)
  | c :: rest => do
    if isPlain c then
      let (chars, rest) ← basic rest
      return (c :: chars, rest)
    else none
  | [] => none

def literal : List Char → Option (List Char × List Char)
  | '\'' :: rest => some ([], rest)
  | c :: rest => do
    if isPlain c then
      let (chars, rest) ← literal rest
      return (c :: chars, rest)
    else none
  | [] => none

/-- The rest after three closing quotes. Up to two more quotes belong to the string. -/
def closing (mark : Char) : List Char → List Char × List Char
  | a :: b :: rest =>
    if a = mark ∧ b = mark then ([mark, mark], rest)
    else if a = mark then ([mark], b :: rest)
    else ([], a :: b :: rest)
  | [a] => if a = mark then ([mark], []) else ([], [a])
  | [] => ([], [])

def endsLine (text : List Char) : Bool := (newline? (skipBlanks text)).isSome

/-- The inside of a string in three double quotes. A backslash at the end of a line takes away
    the line end and all blanks and empty lines after it. -/
def manyBasic : (skipping : Bool) → List Char → Option (List Char × List Char)
  | true, ' ' :: rest => manyBasic true rest
  | true, '\t' :: rest => manyBasic true rest
  | true, '\n' :: rest => manyBasic true rest
  | true, '\r' :: '\n' :: rest => manyBasic true rest
  | _, '"' :: '"' :: '"' :: rest => some (closing '"' rest)
  | _, '\\' :: 'u' :: a :: b :: c :: d :: rest => do
    let code ← coded? [a, b, c, d]
    let (chars, rest) ← manyBasic false rest
    return (code :: chars, rest)
  | _, '\\' :: 'U' :: a :: b :: c :: d :: e :: f :: g :: h :: rest => do
    let code ← coded? [a, b, c, d, e, f, g, h]
    let (chars, rest) ← manyBasic false rest
    return (code :: chars, rest)
  | _, '\\' :: c :: rest => do
    match escape? c with
    | some code =>
      let (chars, rest) ← manyBasic false rest
      return (code :: chars, rest)
    | none => if endsLine (c :: rest) then manyBasic true (c :: rest) else none
  | _, '\r' :: '\n' :: rest => do
    let (chars, rest) ← manyBasic false rest
    return ('\n' :: chars, rest)
  | _, c :: rest => do
    if c = '\n' ∨ isPlain c then
      let (chars, rest) ← manyBasic false rest
      return (c :: chars, rest)
    else none
  | _, [] => none

def manyLiteral : List Char → Option (List Char × List Char)
  | '\'' :: '\'' :: '\'' :: rest => some (closing '\'' rest)
  | '\r' :: '\n' :: rest => do
    let (chars, rest) ← manyLiteral rest
    return ('\n' :: chars, rest)
  | c :: rest => do
    if c = '\n' ∨ isPlain c then
      let (chars, rest) ← manyLiteral rest
      return (c :: chars, rest)
    else none
  | [] => none

/-- A line end right after three opening quotes does not count. -/
def dropNewline (text : List Char) : List Char := (newline? text).getD text

def string : List Char → Option (String × List Char)
  | '"' :: '"' :: '"' :: rest => (manyBasic false (dropNewline rest)).map toString
  | '"' :: rest => (basic rest).map toString
  | '\'' :: '\'' :: '\'' :: rest => (manyLiteral (dropNewline rest)).map toString
  | '\'' :: rest => (literal rest).map toString
  | _ => none
where
  toString (found : List Char × List Char) : String × List Char :=
    (String.ofList found.1, found.2)

/-! Numbers -/

/-- The digits after the first one; an underscore may stand between two of them. -/
def moreDigits (isDigit : Char → Bool) : List Char → List Char × List Char
  | '_' :: c :: rest =>
    if isDigit c then
      let (ds, rest) := moreDigits isDigit rest
      (c :: ds, rest)
    else ([], '_' :: c :: rest)
  | c :: rest =>
    if isDigit c then
      let (ds, rest) := moreDigits isDigit rest
      (c :: ds, rest)
    else ([], c :: rest)
  | [] => ([], [])

def digitRun (isDigit : Char → Bool) : List Char → Option (List Char × List Char)
  | c :: rest =>
    if isDigit c then
      let (ds, rest) := moreDigits isDigit rest
      some (c :: ds, rest)
    else none
  | [] => none

def isDecimal (c : Char) : Bool := (digit? c).isSome

def wholeRun : List Char → Option (List Char × List Char)
  | '0' :: rest => some (['0'], rest)
  | chars => digitRun isDecimal chars

def sign : List Char → List Char × List Char
  | '+' :: rest => (['+'], rest)
  | '-' :: rest => (['-'], rest)
  | rest => ([], rest)

def power : List Char → Option (List Char × List Char)
  | c :: rest =>
    if c = 'e' ∨ c = 'E' then do
      let (mark, rest) := sign rest
      let (ds, rest) ← digitRun isDecimal rest
      return ('e' :: mark ++ ds, rest)
    else some ([], c :: rest)
  | [] => some ([], [])

def part : List Char → Option (List Char × List Char)
  | '.' :: rest => do
    let (ds, rest) ← digitRun isDecimal rest
    return ('.' :: ds, rest)
  | rest => some ([], rest)

def inRange (n : Int) : Bool := -0x8000000000000000 ≤ n && n < 0x8000000000000000

def decimalNumber (text : List Char) : Option (Toml × List Char) := do
  let (mark, rest) := sign text
  let (whole, rest) ← wholeRun rest
  let (part, rest) ← part rest
  let (power, rest) ← power rest
  if part.isEmpty ∧ power.isEmpty then
    let n := Int.ofNat (← readNat whole)
    let n := if mark = ['-'] then -n else n
    if inRange n then return (.integer n, rest) else none
  else
    let written := String.ofList (whole ++ part ++ power)
    if mark = ['-'] ∨ Number.Double.isFinite written then
      return (.fraction (String.ofList mark ++ written), rest)
    else none

def marked (base : Nat) (digit : Char → Option Nat) (text : List Char) :
    Option (Toml × List Char) := do
  let (ds, rest) ← digitRun (fun c => (digit c).isSome) text
  let n := Int.ofNat (← readDigits base digit ds)
  if inRange n then return (.integer n, rest) else none

def below (base : Nat) (c : Char) : Option Nat := (digit? c).filter (· < base)

def specialFraction (text : List Char) : Option (Toml × List Char) :=
  let (mark, rest) := sign text
  match rest with
  | 'i' :: 'n' :: 'f' :: rest => some (.fraction (String.ofList mark ++ "inf"), rest)
  | 'n' :: 'a' :: 'n' :: rest => some (.fraction (String.ofList mark ++ "nan"), rest)
  | _ => none

def number : List Char → Option (Toml × List Char)
  | '0' :: 'x' :: rest => marked 16 hexDigit? rest
  | '0' :: 'o' :: rest => marked 8 (below 8) rest
  | '0' :: 'b' :: rest => marked 2 (below 2) rest
  | chars => decimalNumber chars <|> specialFraction chars

/-! Dates -/

def twoDigits (lo hi : Nat) : List Char → Option (Nat × List Char)
  | a :: b :: rest => do
    let n ← readNat [a, b]
    if lo ≤ n ∧ n ≤ hi then return (n, rest) else none
  | _ => none

def mark (c : Char) : List Char → Option (List Char)
  | d :: rest => if d = c then some rest else none
  | [] => none

def daysOf (year month : Nat) : Nat :=
  let leap := year % 4 = 0 ∧ (year % 100 ≠ 0 ∨ year % 400 = 0)
  match month with
  | 2 => if leap then 29 else 28
  | 4 | 6 | 9 | 11 => 30
  | _ => 31

def day : List Char → Option (List Char)
  | a :: b :: c :: d :: rest => do
    let year ← readNat [a, b, c, d]
    let (month, rest) ← twoDigits 1 12 (← mark '-' rest)
    let (_, rest) ← twoDigits 1 (daysOf year month) (← mark '-' rest)
    return rest
  | _ => none

/-- The text after a time of day. Minutes may end in a leap second. -/
def time (text : List Char) : Option (List Char) := do
  let (_, rest) ← twoDigits 0 23 text
  let (_, rest) ← twoDigits 0 59 (← mark ':' rest)
  let (_, rest) ← twoDigits 0 60 (← mark ':' rest)
  match rest with
  | '.' :: more =>
    match more.span isDecimal with
    | ([], _) => return rest
    | (_, rest) => return rest
  | _ => return rest

def offset : List Char → Option (List Char)
  | 'Z' :: rest | 'z' :: rest => some rest
  | c :: rest =>
    if c = '+' ∨ c = '-' then do
      let (_, rest) ← twoDigits 0 23 rest
      let (_, rest) ← twoDigits 0 59 (← mark ':' rest)
      return rest
    else some (c :: rest)
  | [] => some []

def dateEnd (text : List Char) : Option (List Char) :=
  match day text with
  | none => time text
  | some [] => some []
  | some (c :: rest) =>
    if c = 'T' ∨ c = 't' ∨ c = ' ' then
      match time rest with
      | some rest => offset rest
      | none => some (c :: rest)
    else some (c :: rest)

def calendar (text : List Char) : Option (Toml × List Char) :=
  (dateEnd text).map fun rest =>
    (.date (String.ofList (text.take (text.length - rest.length))), rest)

/-! Names -/

def isBare (c : Char) : Bool := c.isAlphanum || c == '_' || c == '-'

def name : List Char → Option (String × List Char)
  | '"' :: rest => (basic rest).map string.toString
  | '\'' :: rest => (literal rest).map string.toString
  | chars =>
    match chars.span isBare with
    | ([], _) => none
    | (found, rest) => some (String.ofList found, rest)

def dottedNames : (fuel : Nat) → List Char → Option ((List String × String) × List Char)
  | 0, _ => none
  | fuel + 1, chars => do
    let (first, rest) ← name (skipBlanks chars)
    match skipBlanks rest with
    | '.' :: rest =>
      let ((path, last), rest) ← dottedNames fuel rest
      return ((first :: path, last), rest)
    | rest => return (([], first), rest)

/-- How deep names and values may go. -/
def maxDepth : Nat := 79

/-- A key: the names of the tables on the way, and the last name. -/
def key (text : List Char) : Option ((List String × String) × List Char) :=
  dottedNames maxDepth text

end HostHealth.Toml.Scalar
