import HostHealth.Net.Json

/- The arguments of the program: options, the name of a command, and its operands. Options that
   every command knows may come before the name as well as after it; what comes after it
   counts more. An option comes at most once on either side, and after `--` there are none. -/
namespace HostHealth.CommandLine

open Net Text

inductive LogLevel
  | error | warn | info | debug | trace
  deriving DecidableEq, Repr

def LogLevel.read? : String → Option LogLevel
  | "error" => some .error
  | "warn" => some .warn
  | "info" => some .info
  | "debug" => some .debug
  | "trace" => some .trace
  | _ => none

structure Options where
  verbose : Bool
  json : Bool
  logLevel : Option LogLevel
  timeout : Option UInt64
  configFile : Option String
  explorer : Option String
  explorerPassword : Option String
  server : Option SocketAddr
  direct : Bool
  deriving DecidableEq

inductive Command
  | test (host : Host)
  | resolve (hostname : String)
  | version (current latest : String)
  deriving DecidableEq

structure Invocation where
  options : Options
  command : Command
  deriving DecidableEq

inductive UsageError
  | unknownOption (written : String)
  | missingValue (option : String)
  | needlessValue (option : String)
  | badValue (option value : String)
  | repeated (option : String)
  | unknownCommand (name : String)
  | missingCommand
  | wrongOperands (command : String)
  deriving DecidableEq, Repr

def UsageError.message : UsageError → String
  | .unknownOption written => "unexpected argument '" ++ written ++ "'"
  | .missingValue option => "a value is required for '--" ++ option ++ "'"
  | .needlessValue option => "no value is taken by '--" ++ option ++ "'"
  | .badValue option value => "invalid value '" ++ value ++ "' for '--" ++ option ++ "'"
  | .repeated option => "'--" ++ option ++ "' cannot be used multiple times"
  | .unknownCommand name => "unrecognized command '" ++ name ++ "'"
  | .missingCommand => "a command is required"
  | .wrongOperands command => "wrong operands for '" ++ command ++ "'"

inductive Ended
  | usage (error : UsageError)
  | version
  | help
  deriving DecidableEq, Repr

namespace Options

def unset : Options :=
  { verbose := false
    json := false
    logLevel := none
    timeout := none
    configFile := none
    explorer := none
    explorerPassword := none
    server := none
    direct := false }

/-- The later options count more. -/
def followedBy (first later : Options) : Options :=
  { verbose := first.verbose || later.verbose
    json := first.json || later.json
    logLevel := later.logLevel <|> first.logLevel
    timeout := later.timeout <|> first.timeout
    configFile := later.configFile <|> first.configFile
    explorer := later.explorer <|> first.explorer
    explorerPassword := later.explorerPassword <|> first.explorerPassword
    server := later.server <|> first.server
    direct := first.direct || later.direct }

end Options

/-! What the arguments are made of -/

structure Switch where
  short : Option Char
  long : String
  hasValue : Bool
  deriving DecidableEq, Repr

def help : Switch := ⟨some 'h', "help", false⟩

def version : Switch := ⟨some 'V', "version", false⟩

def shared : List Switch :=
  [help, ⟨some 'v', "verbose", false⟩, ⟨none, "log-level", true⟩, ⟨some 't', "timeout", true⟩,
   ⟨none, "json", false⟩, ⟨some 'c', "config", true⟩]

def testSwitches : List Switch :=
  shared ++ [⟨none, "explorer", true⟩, ⟨none, "explorer-password", true⟩]

def resolveSwitches : List Switch :=
  shared ++ [⟨some 's', "server", true⟩, ⟨none, "direct", false⟩]

inductive Item
  | switch (name : String) (value : Option String)
  | operand (text : String)
  | fault (error : UsageError)
  deriving DecidableEq, Repr

/-- Several short options in one argument. A value may follow its letter at once or after an
    equals sign; else the option is still in want of it. -/
def letters (known : List Switch) : List Char → List Item × Option String
  | [] => ([], none)
  | c :: rest =>
    match known.find? (·.short == some c) with
    | none => ([.fault (.unknownOption (String.ofList ['-', c]))], none)
    | some switch =>
      if switch.hasValue then
        match rest with
        | [] => ([], some switch.long)
        | '=' :: value => ([.switch switch.long (some (String.ofList value))], none)
        | value => ([.switch switch.long (some (String.ofList value))], none)
      else
        let (items, wanting) := letters known rest
        (.switch switch.long none :: items, wanting)

def word (known : List Switch) (text : List Char) : List Item × Option String :=
  let (name, value) := match cutFirst '=' text with
    | some (name, value) => (name, some (String.ofList value))
    | none => (text, none)
  match known.find? (·.long.toList == name), value with
  | none, _ => ([.fault (.unknownOption ("--" ++ String.ofList name))], none)
  | some switch, value =>
    if switch.hasValue then
      match value with
      | some value => ([.switch switch.long (some value)], none)
      | none => ([], some switch.long)
    else if value.isSome then ([.fault (.needlessValue switch.long)], none)
    else ([.switch switch.long none], none)

def isOption (arg : String) : Bool :=
  match arg.toList with
  | '-' :: _ :: _ => true
  | _ => false

def optionItems (known : List Switch) (arg : String) : List Item × Option String :=
  match arg.toList with
  | '-' :: '-' :: text => word known text
  | '-' :: text => letters known text
  | _ => ([.operand arg], none)

def scan (known : List Switch) (ends : List String) :
    List String → List Item × Option (String × List String)
  | [] => ([], none)
  | arg :: rest =>
    if arg ∈ ends then ([], some (arg, rest))
    else if arg = "--" then (rest.map .operand, none)
    else if isOption arg then
      match optionItems known arg, rest with
      | (items, none), rest =>
        let (more, tail) := scan known ends rest
        (items ++ more, tail)
      | (items, some wanting), value :: rest =>
        if isOption value then (items ++ [.fault (.missingValue wanting)], none)
        else
          let (more, tail) := scan known ends rest
          (items ++ .switch wanting (some value) :: more, tail)
      | (items, some wanting), [] => (items ++ [.fault (.missingValue wanting)], none)
    else
      let (more, tail) := scan known ends rest
      (.operand arg :: more, tail)

/-! What they ask for -/

def take {α : Type} (name : String) (before : Option α) (value : String)
    (read : String → Option α) : Except Ended (Option α) :=
  if before.isSome then .error (.usage (.repeated name))
  else match read value with
    | some a => .ok (some a)
    | none => .error (.usage (.badValue name value))

def raise (name : String) (before : Bool) : Except Ended Bool :=
  if before then .error (.usage (.repeated name)) else .ok true

def readTimeout (text : String) : Option UInt64 :=
  (readUnsigned UInt64.size text.toList).map UInt64.ofNat

def readPath (text : String) : Option String := if text.isEmpty then none else some text

def applySwitch (options : Options) (name : String) (value : String) : Except Ended Options := do
  match name with
  | "help" => .error .help
  | "version" => .error .version
  | "verbose" => return { options with verbose := ← raise name options.verbose }
  | "json" => return { options with json := ← raise name options.json }
  | "direct" => return { options with direct := ← raise name options.direct }
  | "log-level" =>
    return { options with logLevel := ← take name options.logLevel value LogLevel.read? }
  | "timeout" =>
    return { options with timeout := ← take name options.timeout value readTimeout }
  | "config" =>
    return { options with configFile := ← take name options.configFile value readPath }
  | "explorer" =>
    return { options with explorer := ← take name options.explorer value some }
  | "explorer-password" =>
    return { options with
      explorerPassword := ← take name options.explorerPassword value some }
  | "server" =>
    return { options with server := ← take name options.server value SocketAddr.read }
  | _ => .error (.usage (.unknownOption name))

def gather (options : Options) : List Item → Except Ended (Options × List String)
  | [] => .ok (options, [])
  | .switch name value :: rest => do
    gather (← applySwitch options name (value.getD "")) rest
  | .operand text :: rest => do
    let (options, operands) ← gather options rest
    return (options, text :: operands)
  | .fault error :: _ => .error (.usage error)

def testCommand : List String → Option Command
  | key :: first :: rest => do
    let publicKey ← (PublicKey.read key).toOption
    let netAddresses ← (first :: rest).mapM fun text => (NetAddress.read text).toOption
    return .test { publicKey := publicKey, netAddresses := netAddresses }
  | _ => none

def resolveCommand : List String → Option Command
  | [hostname] => some (.resolve hostname)
  | _ => none

def versionCommand : List String → Option Command
  | [current, latest] => some (.version current latest)
  | _ => none

def commandNames : List String := ["test", "resolve", "version", "help"]

def readCommand (before : Options) (name : String) (args : List String) :
    Except Ended Invocation := do
  let (known, build) ← match name, args with
    | "test", _ => pure (testSwitches, testCommand)
    | "resolve", _ => pure (resolveSwitches, resolveCommand)
    | "version", _ => pure (shared, versionCommand)
    | _, [] => .error .help
    | _, [topic] =>
      .error (if topic ∈ commandNames then .help else .usage (.unknownCommand topic))
    | _, _ => .error (.usage (.wrongOperands name))
  let (options, operands) ← gather .unset (scan known [] args).1
  match build operands with
  | some command => return ⟨before.followedBy options, command⟩
  | none => .error (.usage (.wrongOperands name))

/-- Before the name of a command only options may stand. -/
def Invocation.read (args : List String) : Except Ended Invocation := do
  let (items, command) := scan (version :: shared) commandNames args
  match items.findSome? fun | .operand text => some text | _ => none, command with
  | some name, _ =>
    let _ ← gather .unset (items.takeWhile fun | .operand _ => false | _ => true)
    .error (.usage (.unknownCommand name))
  | none, none =>
    let _ ← gather .unset items
    .error (.usage .missingCommand)
  | none, some (name, rest) =>
    let (options, _) ← gather .unset items
    readCommand options name rest

end HostHealth.CommandLine
