import HostHealth.Dns.Resolver
import HostHealth.Inspector.Source
import HostHealth.Toml.Reader

/- The configuration: three sections, every one of which and every key in which may be missing.
   Lengths of time are whole seconds. A configuration is valid when no length is zero that has
   to be positive; only the cooldown may be zero. -/
namespace HostHealth

open Net Text

structure Config.Inspection where
  cooldown : UInt64
  testTimeout : UInt64
  tipRefresh : UInt64
  releaseRefresh : UInt64
  dialTimeout : UInt64
  releaseOrg : String
  releaseRepo : String
  deriving DecidableEq

structure Config.Lookup where
  fallbackServer : SocketAddr
  queryTimeout : UInt64
  maxDepth : UInt64
  deriving DecidableEq

structure Config.Explorer where
  address : String
  password : Option String
  deriving DecidableEq

structure Config where
  inspection : Config.Inspection
  lookup : Config.Lookup
  explorer : Config.Explorer
  deriving DecidableEq

inductive ConfigError
  | unreadable
  | notPositive (key : String)
  deriving DecidableEq, Repr

def ConfigError.message : ConfigError → String
  | .unreadable => "TOML parse error"
  | .notPositive key => key ++ " must be greater than zero"

namespace Config

def wholeSeconds (span : Nat) : UInt64 := UInt64.ofNat (span / 1000000000)

def standard : Config :=
  let policy := Inspector.Policy.standard
  let resolver := Dns.Resolver.standard
  { inspection :=
      { cooldown := wholeSeconds policy.cooldown
        testTimeout := wholeSeconds policy.testTimeout
        tipRefresh := wholeSeconds policy.tipRefresh
        releaseRefresh := wholeSeconds policy.releaseRefresh
        dialTimeout := wholeSeconds policy.dialTimeout
        releaseOrg := policy.releaseOrg
        releaseRepo := policy.releaseRepo }
    lookup :=
      { fallbackServer := resolver.server
        queryTimeout := wholeSeconds resolver.timeout
        maxDepth := UInt64.ofNat resolver.maxDepth }
    explorer :=
      { address := "https://api.siascan.com"
        password := none } }

def policy (config : Config) : Inspector.Policy :=
  let m := config.inspection
  { cooldown := Span.ofSeconds m.cooldown.toNat
    testTimeout := Span.ofSeconds m.testTimeout.toNat
    tipRefresh := Span.ofSeconds m.tipRefresh.toNat
    releaseRefresh := Span.ofSeconds m.releaseRefresh.toNat
    dialTimeout := Span.ofSeconds m.dialTimeout.toNat
    releaseOrg := m.releaseOrg
    releaseRepo := m.releaseRepo }

def resolver (config : Config) : Dns.Resolver :=
  { server := config.lookup.fallbackServer
    timeout := Span.ofSeconds config.lookup.queryTimeout.toNat
    maxDepth := config.lookup.maxDepth.toNat }

/-! Validity -/

/-- The lengths that have to be positive, by their keys, in the order in which they are
    looked at. -/
def positives (config : Config) : List (String × UInt64) :=
  [("manager.test_timeout_secs", config.inspection.testTimeout),
   ("manager.tip_refresh_secs", config.inspection.tipRefresh),
   ("manager.release_refresh_secs", config.inspection.releaseRefresh),
   ("manager.dial_timeout_secs", config.inspection.dialTimeout),
   ("dns.query_timeout_secs", config.lookup.queryTimeout)]

def firstZero? (config : Config) : Option String :=
  (config.positives.find? fun entry => entry.2 == 0).map Prod.fst

def IsValid (config : Config) : Prop := ∀ entry ∈ config.positives, entry.2 ≠ 0

instance (config : Config) : Decidable config.IsValid :=
  inferInstanceAs (Decidable (∀ entry ∈ config.positives, entry.2 ≠ 0))

theorem firstZero?_eq_none_iff {config : Config} :
    config.firstZero? = none ↔ config.IsValid := by
  simp [firstZero?, IsValid]

/-! Reading -/

/-- The fields of a section by their names. No other key is known; a section may also be a row
    of its fields in this order, and what follows the last of them is ignored. -/
def sectionFields (names : List String) : Toml → Option (List (Option Toml))
  | .table _ entries =>
    if entries.all (fun entry => entry.1 ∈ names) then
      some (names.map fun name => List.lookup name entries)
    else none
  | .array items => some (names.mapIdx fun i _ => items[i]?)
  | _ => none

def field {α : Type} (missing : α) (read : Toml → Option α) : Option Toml → Option α
  | none => some missing
  | some value => read value

def readWord (value : Toml) : Option UInt64 := value.asNatural.map UInt64.ofNat

def readServer (value : Toml) : Option SocketAddr := value.asText.bind SocketAddr.read

def readInspection (missing : Inspection) (value : Toml) : Option Inspection := do
  match ← sectionFields ["cooldown_secs", "test_timeout_secs", "tip_refresh_secs",
      "release_refresh_secs", "dial_timeout_secs", "release_org", "release_repo"] value with
  | [cooldown, testTimeout, tipRefresh, releaseRefresh, dialTimeout, org, repo] =>
    return {
      cooldown := ← field missing.cooldown readWord cooldown
      testTimeout := ← field missing.testTimeout readWord testTimeout
      tipRefresh := ← field missing.tipRefresh readWord tipRefresh
      releaseRefresh := ← field missing.releaseRefresh readWord releaseRefresh
      dialTimeout := ← field missing.dialTimeout readWord dialTimeout
      releaseOrg := ← field missing.releaseOrg Toml.asText org
      releaseRepo := ← field missing.releaseRepo Toml.asText repo }
  | _ => none

def readLookup (missing : Lookup) (value : Toml) : Option Lookup := do
  match ← sectionFields ["fallback_server", "query_timeout_secs", "max_cname_depth"] value with
  | [server, timeout, depth] =>
    return {
      fallbackServer := ← field missing.fallbackServer readServer server
      queryTimeout := ← field missing.queryTimeout readWord timeout
      maxDepth := ← field missing.maxDepth readWord depth }
  | _ => none

def readExplorer (missing : Explorer) (value : Toml) : Option Explorer := do
  match ← sectionFields ["address", "password"] value with
  | [address, password] =>
    return {
      address := ← field missing.address Toml.asText address
      password := ← field missing.password (fun value => value.asText.map some) password }
  | _ => none

def ofEntries (entries : Toml.Entries) : Option Config := do
  match ← sectionFields ["manager", "dns", "explorer"] (.table .header entries) with
  | [manager, dns, explorer] =>
    return {
      inspection := ← field standard.inspection (readInspection standard.inspection) manager
      lookup := ← field standard.lookup (readLookup standard.lookup) dns
      explorer := ← field standard.explorer (readExplorer standard.explorer) explorer }
  | _ => none

def read (text : String) : Except ConfigError Config :=
  match (Toml.read text).bind ofEntries with
  | none => .error .unreadable
  | some config =>
    match config.firstZero? with
    | some key => .error (.notPositive key)
    | none => .ok config

theorem isValid_of_read {text : String} {config : Config} (h : read text = .ok config) :
    config.IsValid := by
  simp only [read] at h
  split at h
  · simp at h
  · split at h
    · simp at h
    · cases h
      exact firstZero?_eq_none_iff.mp ‹_›

end Config
end HostHealth
