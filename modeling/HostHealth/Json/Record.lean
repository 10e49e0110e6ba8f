import HostHealth.Json.Basic
import HostHealth.Json.Range

/- Records in JSON. A record is an object whose members it knows by name, each at most once
   and foreign ones ignored, or an array of its fields in their declared order, without the
   last ones if they have defaults. -/
namespace HostHealth.Json

open Number Text

def valuesOf (name : String) (members : List (String × Json)) : List Json :=
  (members.filter fun m => m.1 == name).map Prod.snd

def fieldOf (members : List (String × Json)) (name : String) : Option (Option Json) :=
  match valuesOf name members with
  | [] => some none
  | [value] => some (some value)
  | _ => none

def padItems : List String → List Json → Option (List (Option Json))
  | [], [] => some []
  | [], _ :: _ => none
  | _ :: names, [] => (padItems names []).map (none :: ·)
  | _ :: names, item :: items => (padItems names items).map (some item :: ·)

/-- The fields of a record by their declared names; nothing where one is missing. -/
def fields (names : List String) : Json → Option (List (Option Json))
  | .object members => names.mapM (fieldOf members)
  | .array items => padItems names items
  | _ => none

/-- A plain tag: its name, or an object with the name as its only member and null. -/
def asTag : Json → Option String
  | .text name => some name
  | .object [(name, .null)] => some name
  | _ => none

def orDefault {α : Type} (default : α) (read : Json → Option α) : Option Json → Option α
  | none => some default
  | some json => read json

mutual

/-- Whether a value can be held before its type is known: texts are whole, numbers are in range,
    and containers nest at most `room` deep. -/
def isHoldable (room : Nat) : Json → Bool
  | .null | .bool _ | .text _ => true
  | .natural n => isHoldableNumber ⟨digits n, [], 0⟩
  | .numeral written => isHoldableNumber (.ofChars written.toList)
  | .unpaired => false
  | .array items => room ≠ 0 && areHoldable (room - 1) items
  | .object members => room ≠ 0 && membersHoldable (room - 1) members

def areHoldable (room : Nat) : List Json → Bool
  | [] => true
  | item :: rest => isHoldable room item && areHoldable room rest

def membersHoldable (room : Nat) : List (String × Json) → Bool
  | [] => true
  | (_, item) :: rest => isHoldable room item && membersHoldable room rest

end

end HostHealth.Json
