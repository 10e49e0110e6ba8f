import HostHealth.Network
import HostHealth.Text.Split

/- Domain names, and the names with a meaning of their own: what ends in `localhost` is this
   machine, and what ends in `invalid` or `onion` has no address at all. -/
namespace HostHealth.Dns

open Net Text

/-- An absolute name: its labels in lower case, the topmost one last, none for the root. -/
structure Name where
  labels : List (List Char)
  deriving DecidableEq, Repr

inductive NameError
  | malformedLabel (label : String)
  | tooLong (length : Nat)
  deriving DecidableEq, Repr

def NameError.message : NameError → String
  | .malformedLabel label => "Malformed label: " ++ label
  | .tooLong length => "name of " ++ decimal length ++ " characters is too long"

namespace Name

def maxLength : Nat := 254

def isLetterOrDigit (c : Char) : Bool :=
  ('a' ≤ c && c ≤ 'z') || ('A' ≤ c && c ≤ 'Z') || ('0' ≤ c && c ≤ '9')

def isLabelChar (c : Char) : Bool := isLetterOrDigit c || c == '-' || c == '_'

/-- One to 63 characters with no dash at the start, or the wildcard. -/
def isLabel (label : List Char) : Bool :=
  label == ['*'] ||
    (0 < label.length && label.length ≤ 63 && label.head? != some '-' && label.all isLabelChar)

def absolute (text : List Char) : List Char :=
  if text.getLast? = some '.' then text else text ++ ['.']

def read (text : String) : Except NameError Name :=
  match absolute text.toList with
  | ['.'] => .ok ⟨[]⟩
  | whole =>
    let labels := (pieces (· == '.') whole).dropLast
    match labels.find? (!isLabel ·) with
    | some label => .error (.malformedLabel (String.ofList label))
    | none =>
      if maxLength < whole.length then .error (.tooLong whole.length)
      else .ok ⟨labels.map lowerAscii⟩

def isWithin (name : Name) (top : String) : Bool := name.labels.getLast? == some top.toList

def loopback : RecordType → List Answer
  | .a => [.ip (.v4 ⟨127, 0, 0, 1⟩)]
  | .aaaa => [.ip (.v6 ⟨[0, 0, 0, 0, 0, 0, 0, 1], rfl⟩)]
  | .cname => []

/-- The records of a name that no server is asked for. -/
def reserved? (name : Name) (type : RecordType) : Option (List Answer) :=
  if name.isWithin "localhost" then some (loopback type)
  else if name.isWithin "invalid" || name.isWithin "onion" then some []
  else none

end Name

/-- One record query when the server stays silent and is given up after `wait`. -/
def silentQuery (wait : Nat) (text : String) (type : RecordType) :
    Reply (Except DnsError (List Answer)) :=
  match Name.read text with
  | .error e => .answer 0 (.error (.invalidName text e.message))
  | .ok name =>
    match name.reserved? type with
    | some answers => .answer 0 (.ok answers)
    | none => .answer wait (.error (.query type "request timed out"))

end HostHealth.Dns
