import HostHealth.Json.Basic
import HostHealth.Text.Decimal

/- Writing JSON, on one line or spread over lines with the members sorted by name. -/
namespace HostHealth.Json

open Text

namespace Writer

def escape (c : Char) : List Char :=
  if c = '"' then ['\\', '"']
  else if c = '\\' then ['\\', '\\']
  else if c = '\x08' then ['\\', 'b']
  else if c = '\x0c' then ['\\', 'f']
  else if c = '\n' then ['\\', 'n']
  else if c = '\r' then ['\\', 'r']
  else if c = '\t' then ['\\', 't']
  else if c < ' ' then
    ['\\', 'u', '0', '0', hexChar (c.toNat / 16), hexChar (c.toNat % 16)]
  else [c]

def string (s : String) : List Char := '"' :: s.toList.flatMap escape ++ ['"']

mutual

def compact : Json → List Char
  | .null => "null".toList
  | .bool true => "true".toList
  | .bool false => "false".toList
  | .natural n => digits n
  | .numeral written => written.toList
  | .text s => string s
  | .unpaired => string "\uFFFD"
  | .array items => '[' :: compactItems items ++ [']']
  | .object members => '\x7b' :: compactMembers members ++ ['\x7d']

def compactItems : List Json → List Char
  | [] => []
  | [item] => compact item
  | item :: rest => compact item ++ ',' :: compactItems rest

def compactMembers : List (String × Json) → List Char
  | [] => []
  | [(name, item)] => string name ++ ':' :: compact item
  | (name, item) :: rest => string name ++ ':' :: compact item ++ ',' :: compactMembers rest

end

def newline (indent : Nat) : List Char := '\n' :: List.replicate (2 * indent) ' '

mutual

/-- Two blanks of indentation to the level; empty containers stay closed. -/
def spread (indent : Nat) : Json → List Char
  | .array [] => ['[', ']']
  | .array (item :: rest) =>
    '[' :: spreadItems (indent + 1) (item :: rest) ++ newline indent ++ [']']
  | .object [] => ['\x7b', '\x7d']
  | .object (member :: rest) =>
    '\x7b' :: spreadMembers (indent + 1) (member :: rest) ++ newline indent ++ ['\x7d']
  | json => compact json

def spreadItems (indent : Nat) : List Json → List Char
  | [] => []
  | [item] => newline indent ++ spread indent item
  | item :: rest => newline indent ++ spread indent item ++ ',' :: spreadItems indent rest

def spreadMembers (indent : Nat) : List (String × Json) → List Char
  | [] => []
  | [(name, item)] => newline indent ++ string name ++ ':' :: ' ' :: spread indent item
  | (name, item) :: rest =>
    newline indent ++ string name ++ ':' :: ' ' :: spread indent item
      ++ ',' :: spreadMembers indent rest

end

end Writer

def write (json : Json) : String := String.ofList (Writer.compact json)

mutual

def sorted : Json → Json
  | .array items => .array (sortedItems items)
  | .object members => .object ((sortedMembers members).mergeSort fun a b => a.1 ≤ b.1)
  | json => json

def sortedItems : List Json → List Json
  | [] => []
  | item :: rest => sorted item :: sortedItems rest

def sortedMembers : List (String × Json) → List (String × Json)
  | [] => []
  | (name, item) :: rest => (name, sorted item) :: sortedMembers rest

end

def writeLines (json : Json) : String := String.ofList (Writer.spread 0 json)

def writeSpread (json : Json) : String := json.sorted.writeLines

end HostHealth.Json
