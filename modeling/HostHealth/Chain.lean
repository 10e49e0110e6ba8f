import HostHealth.Json.Record

/- The state of the chain as an explorer reports it: the tip, and the two heights of the
   second hardfork. -/
namespace HostHealth

structure ChainIndex where
  height : UInt64
  id : String
  deriving DecidableEq

structure Hardfork where
  allowHeight : UInt64
  requireHeight : UInt64
  deriving DecidableEq

structure ConsensusState where
  index : ChainIndex
  hardfork : Hardfork
  deriving DecidableEq

namespace ConsensusState

def legacyAllowed (state : ConsensusState) : Bool :=
  state.index.height < state.hardfork.allowHeight

def readIndex (json : Json) : Option ChainIndex := do
  match ← json.fields ["height", "id"] with
  | [some height, some id] => return { height := ← height.asWord, id := ← id.asText }
  | _ => none

def readHardfork (json : Json) : Option Hardfork := do
  match ← json.fields ["allowHeight", "requireHeight"] with
  | [some allow, some require] =>
    return { allowHeight := ← allow.asWord, requireHeight := ← require.asWord }
  | _ => none

def readNetwork (json : Json) : Option Hardfork := do
  match ← json.fields ["hardforkV2"] with
  | [some hardfork] => readHardfork hardfork
  | _ => none

def ofJson (json : Json) : Option ConsensusState := do
  match ← json.fields ["index", "network"] with
  | [some index, some network] =>
    return { index := ← readIndex index, hardfork := ← readNetwork network }
  | _ => none

def toJson (state : ConsensusState) : Json :=
  .object [
    ("index", .object [
      ("height", .word state.index.height),
      ("id", .text state.index.id)]),
    ("network", .object [
      ("hardforkV2", .object [
        ("allowHeight", .word state.hardfork.allowHeight),
        ("requireHeight", .word state.hardfork.requireHeight)])])]

end ConsensusState
end HostHealth
