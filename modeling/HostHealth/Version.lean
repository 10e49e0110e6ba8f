import HostHealth.Text.Blank
import HostHealth.Text.Decimal

/- Release versions `vMAJOR.MINOR.PATCH[-SUFFIX]`: their text form, and their order, in
   which a suffix ranks below its absence and two suffixes of the same numbers tie. -/
namespace HostHealth

open Text

structure Version where
  major : UInt8
  minor : UInt8
  patch : UInt8
  suffix : String
  deriving DecidableEq, Repr

inductive VersionPart
  | major | minor | patch
  deriving DecidableEq, Repr

inductive VersionError
  | empty
  | format (text : String)
  | part (which : VersionPart) (text : String)
  deriving DecidableEq, Repr

def VersionPart.name : VersionPart → String
  | .major => "major"
  | .minor => "minor"
  | .patch => "patch"

def VersionError.message : VersionError → String
  | .empty => "empty version string"
  | .format text => "invalid version format: " ++ text
  | .part which text => "invalid " ++ which.name ++ " version: " ++ text

namespace Version

def zero : Version := ⟨0, 0, 0, ""⟩

def isPrerelease (v : Version) : Bool := v.suffix ≠ ""

def text (v : Version) : String :=
  let numbers :=
    "v" ++ decimal v.major.toNat ++ "." ++ decimal v.minor.toNat ++ "." ++ decimal v.patch.toNat
  if v.isPrerelease then numbers ++ "-" ++ v.suffix else numbers

def readPart (which : VersionPart) (text : List Char) : Except VersionError UInt8 :=
  match readBelow 256 text with
  | some n => .ok (UInt8.ofNat n)
  | none => .error (.part which (String.ofList text))

/-- The suffix starts at the first dash. -/
def read (text : String) : Except VersionError Version :=
  match text.toList with
  | [] => .error .empty
  | 'v' :: rest => do
    let (numbers, suffix) := (cutFirst '-' rest).getD (rest, [])
    match pieces (· == '.') numbers with
    | [major, minor, patch] =>
      return ⟨← readPart .major major, ← readPart .minor minor, ← readPart .patch patch,
        String.ofList suffix⟩
    | _ => .error (.format (String.ofList numbers))
  | _ => .error (.format text)

/-- A version, or an application's name and its version. -/
def readRelease (text : String) : Except VersionError Version :=
  match words text.toList with
  | _ :: version :: _ => read (String.ofList version)
  | _ => read text

def compare (a b : Version) : Ordering :=
  (Ord.compare a.major b.major).then <|
  (Ord.compare a.minor b.minor).then <|
  (Ord.compare a.patch b.patch).then <|
  match a.isPrerelease, b.isPrerelease with
  | true, false => .lt
  | false, true => .gt
  | _, _ => .eq

def isOlder (a b : Version) : Bool := a.compare b == .lt

/-- Whether neither of the two ranks above the other. Their suffixes may still differ. -/
def isLevel (a b : Version) : Bool := a.compare b == .eq

def sort (versions : List Version) : List Version :=
  versions.mergeSort fun a b => a.compare b != .gt

end Version
end HostHealth
