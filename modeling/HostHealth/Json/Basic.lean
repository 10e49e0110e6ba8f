/- JSON values. Members keep their order and may repeat a name; numbers that are not plain
   natural numbers are kept as they are written. -/
namespace HostHealth

inductive Json
  | null
  | bool (value : Bool)
  | natural (value : Nat)
  | numeral (written : String)
  | text (value : String)
  /-- A text with half of a surrogate pair in it: the grammar has it, no string holds it. -/
  | unpaired
  | array (items : List Json)
  | object (members : List (String × Json))
  deriving Repr, Inhabited

namespace Json

def asBool : Json → Option Bool
  | .bool b => some b
  | _ => none

def asText : Json → Option String
  | .text s => some s
  | _ => none

def asNatural (limit : Nat) : Json → Option Nat
  | .natural n => if n < limit then some n else none
  | _ => none

def asWord (json : Json) : Option UInt64 := (json.asNatural UInt64.size).map UInt64.ofNat

def asList {α : Type} (read : Json → Option α) : Json → Option (List α)
  | .array items => items.mapM read
  | _ => none

/-- Null is none; anything else has to read as wanted. -/
def asOptional {α : Type} (read : Json → Option α) : Json → Option (Option α)
  | .null => some none
  | json => (read json).map some

def word (n : UInt64) : Json := .natural n.toNat

def texts (values : List String) : Json := .array (values.map .text)

def ofOptional {α : Type} (write : α → Json) : Option α → Json
  | none => .null
  | some a => write a

def member? (name : String) : Json → Option Json
  | .object members => members.lookup name
  | _ => none

end Json
end HostHealth
