import HostHealth.Text.Decimal
import HostHealth.Text.Quoted
import HostHealth.Text.Split

/- Host identity keys: 32 bytes, written as `ed25519:` and 64 hexadecimal digits. -/
namespace HostHealth.Net

open Text

structure PublicKey where
  bytes : List UInt8
  size : bytes.length = 32
  deriving DecidableEq

inductive HexError
  | oddLength
  | badByte (byte : UInt8) (position : Nat)
  deriving DecidableEq, Repr

inductive KeyError
  | unmarked
  | hex (reason : HexError)
  | length (bytes : Nat)
  deriving DecidableEq, Repr

def HexError.message : HexError → String
  | .oddLength => "Odd number of digits"
  | .badByte byte position =>
    "Invalid character " ++ quoteChar (Char.ofNat byte.toNat) ++ " at position "
      ++ decimal position

def KeyError.message : KeyError → String
  | .unmarked => "public key must start with \"ed25519:\""
  | .hex reason => "invalid public key hex: " ++ reason.message
  | .length bytes => "public key must be 32 bytes, got " ++ decimal bytes

def utf8 (text : List Char) : List UInt8 := text.flatMap String.utf8EncodeChar

namespace Hex

def digit (byte : UInt8) (position : Nat) : Except HexError UInt8 :=
  match hexDigit? (Char.ofNat byte.toNat) with
  | some n => .ok (UInt8.ofNat n)
  | none => .error (.badByte byte position)

/-- Two digits to the byte, the first bad one reported by its position. -/
def decodeFrom (position : Nat) : List UInt8 → Except HexError (List UInt8)
  | [] => .ok []
  | [_] => .error .oddLength
  | high :: low :: rest => do
    let h ← digit high position
    let l ← digit low (position + 1)
    return (h * 16 + l) :: (← decodeFrom (position + 2) rest)

/-- An odd number of bytes is refused before any of them is looked at. -/
def decode (text : List UInt8) : Except HexError (List UInt8) :=
  if text.length % 2 = 1 then .error .oddLength else decodeFrom 0 text

def encode (bytes : List UInt8) : List Char :=
  bytes.flatMap fun b => [hexChar (b.toNat / 16), hexChar (b.toNat % 16)]

end Hex

namespace PublicKey

def marker : String := "ed25519:"

def filled (byte : UInt8) : PublicKey := ⟨List.replicate 32 byte, List.length_replicate⟩

def text (key : PublicKey) : String := marker ++ String.ofList (Hex.encode key.bytes)

def ofBytes (bytes : List UInt8) : Except KeyError PublicKey :=
  if size : bytes.length = 32 then .ok ⟨bytes, size⟩ else .error (.length bytes.length)

def read (text : String) : Except KeyError PublicKey :=
  match dropLead? marker.toList text.toList with
  | none => .error .unmarked
  | some encoded =>
    match Hex.decode (utf8 encoded) with
    | .error reason => .error (.hex reason)
    | .ok bytes => ofBytes bytes

end PublicKey
end HostHealth.Net
