import HostHealth.CommandLine.Style
import HostHealth.Probe.Report

/- The report on a host for people to read: a heading, then for every probe a line with its
   verdict and the details below it, and a summary that counts the verdicts. -/
namespace HostHealth.CommandLine

open Net Text

inductive Verdict
  | pass | warn | fail
  deriving DecidableEq, Repr

/-- Errors count before warnings. -/
def Verdict.ofProbe (probe : ProbeReport) : Verdict :=
  if probe.hasErrors then .fail
  else if probe.warnings.isEmpty then .pass
  else .warn

def Verdict.name : Verdict → String
  | .pass => "PASS"
  | .warn => "WARN"
  | .fail => "FAIL"

def Verdict.style : Verdict → Style
  | .pass => Color.green.bold
  | .warn => Color.yellow.bold
  | .fail => Color.red.bold

inductive Line
  | rule (mark : Char)
  | title
  | publicKey (key : PublicKey)
  | version (text : String)
  | blank
  | status (verdict : Verdict) (address : NetAddress)
  | resolved (addresses : List Ip)
  | timings (stages : List (String × Nat))
  | error (text : String)
  | warning (text : String)
  | summary (passed failed total : Nat)
  deriving DecidableEq

namespace Line

def text (colored : Bool) : Line → String
  | .rule mark => Color.blue.plain.paint colored (String.ofList (List.replicate 80 mark))
  | .title => Color.blue.bold.paint colored "Host Test Results"
  | .publicKey key => "Public key: " ++ key.text
  | .version "" => "Version:    " ++ Color.yellow.plain.paint colored "unknown"
  | .version text => "Version:    " ++ text
  | .blank => ""
  | .status verdict address =>
    verdict.style.paint colored verdict.name ++ " " ++ address.text
  | .resolved addresses => "  resolved: " ++ ", ".intercalate (addresses.map Ip.text)
  | .timings stages =>
    let parts := stages.map fun (name, span) => name ++ " " ++ Span.brief span
    "  " ++ Color.cyan.plain.paint colored ("  ".intercalate parts)
  | .error text => "  ✗ " ++ Color.red.plain.paint colored text
  | .warning text => "  ! " ++ Color.yellow.plain.paint colored text
  | .summary passed failed total =>
    "Summary: " ++ Color.green.bold.paint colored (decimal passed) ++ " passed, "
      ++ Color.red.bold.paint colored (decimal failed) ++ " failed, "
      ++ Color.blue.bold.paint colored (decimal total) ++ " total"

end Line

def passedStages (probe : ProbeReport) : List (String × Nat) :=
  ([("dial", probe.connected, probe.dialTime),
    ("handshake", probe.handshake, probe.handshakeTime),
    ("scan", probe.scanned, probe.scanTime)].filter fun stage => stage.2.1).map
    fun stage => (stage.1, stage.2.2)

def probeLines (probe : ProbeReport) : List Line :=
  let stages := passedStages probe
  [.status (.ofProbe probe) probe.netAddress]
    ++ (if probe.resolvedAddresses.isEmpty then [] else [.resolved probe.resolvedAddresses])
    ++ (if stages.isEmpty then [] else [.timings stages])
    ++ probe.errors.map .error
    ++ probe.warnings.map .warning
    ++ [.blank]

/-- What is printed on the probes so far, and how many of them have errors. -/
structure Progress where
  lines : List Line
  failed : Nat

def Progress.next (progress : Progress) (probe : ProbeReport) : Progress :=
  { lines := progress.lines ++ probeLines probe
    failed := if probe.hasErrors then progress.failed + 1 else progress.failed }

def reportLines (report : HostReport) : List Line :=
  let progress := report.all.foldl Progress.next ⟨[], 0⟩
  let total := report.all.length
  [.blank, .rule '=', .title, .rule '=', .publicKey report.publicKey, .version report.version,
   .blank]
    ++ progress.lines
    ++ [.rule '-', .summary (total - progress.failed) progress.failed total]

def reportText (colored : Bool) (report : HostReport) : String :=
  String.join ((reportLines report).map fun line => line.text colored ++ "\n")

end HostHealth.CommandLine
