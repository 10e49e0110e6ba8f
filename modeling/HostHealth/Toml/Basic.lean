/- Values of TOML, and the tables that headers and dotted keys build up. How a table came about
   decides who may add to it. -/
namespace HostHealth

inductive Toml.Origin
  | header
  | implied
  | dotted
  | closed
  deriving DecidableEq, Repr

/-- Fractions and dates are kept as they are written. The tables under one header in double
    brackets come latest first. -/
inductive Toml
  | text (value : String)
  | integer (value : Int)
  | bool (value : Bool)
  | fraction (written : String)
  | date (written : String)
  | array (items : List Toml)
  | rows (tables : List Toml)
  | table (origin : Toml.Origin) (entries : List (String × Toml))
  deriving Repr, Inhabited

namespace Toml

abbrev Entries := List (String × Toml)

abbrev Change := Origin → Entries → Option Entries

def asText : Toml → Option String
  | .text s => some s
  | _ => none

def asNatural : Toml → Option Nat
  | .integer (.ofNat n) => some n
  | _ => none

/-- The entries after the one of this name has become what `edit` says; nothing stands for a
    name that is new. -/
def edited (name : String) (edit : Option Toml → Option Toml) : Entries → Option Entries
  | [] => (edit none).map fun value => [(name, value)]
  | (key, value) :: rest =>
    if key = name then (edit (some value)).map fun value => (key, value) :: rest
    else (edited name edit rest).map ((key, value) :: ·)

def add (name : String) (value : Toml) (entries : Entries) : Option Entries :=
  edited name (fun | none => some value | some _ => none) entries

/-- Which tables a path may go through, by whether dotted keys make it up. -/
def isPassable (dotted : Bool) : Origin → Bool
  | .header => !dotted
  | .implied | .dotted => true
  | .closed => false

/-- A change at the end of a path. Tables that are not there yet come about on the way, and of
    several tables under one name the latest one is meant. -/
def change (dotted : Bool) (final : Change) : List String → Change
  | [], origin, entries => final origin entries
  | name :: path, _, entries =>
    edited name
      (fun
        | none =>
          let origin := if dotted then Origin.dotted else .implied
          (change dotted final path origin []).map (.table origin)
        | some (.table origin inner) =>
          if isPassable dotted origin then
            (change dotted final path origin inner).map (.table origin)
          else none
        | some (.rows (.table origin inner :: earlier)) =>
          (change dotted final path origin inner).map fun inner =>
            .rows (.table origin inner :: earlier)
        | some _ => none)
      entries

/-- A key and its value. A dotted key ends in a table that dotted keys made, any other key in
    one that they did not make. -/
def assign (path : List String) (name : String) (value : Toml) : Change :=
  change true
    (fun origin entries =>
      if (origin == .dotted) == path.isEmpty then none else add name value entries)
    path

def openTable (path : List String) (name : String) : Change :=
  change false
    (fun _ entries =>
      edited name
        (fun
          | none => some (.table .header [])
          | some (.table .implied inner) => some (.table .header inner)
          | some _ => none)
        entries)
    path

def openRow (path : List String) (name : String) : Change :=
  change false
    (fun _ entries =>
      edited name
        (fun
          | none => some (.rows [.table .header []])
          | some (.rows tables) => some (.rows (.table .header [] :: tables))
          | some _ => none)
        entries)
    path

def assignBelow (header : List String) (path : List String) (name : String) (value : Toml) :
    Change :=
  change false (assign path name value) header

end Toml
end HostHealth
