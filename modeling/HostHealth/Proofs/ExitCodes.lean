import HostHealth.Proofs.Courses
import HostHealth.Proofs.Entries
import HostHealth.Proofs.PositiveTimes
import HostHealth.Proofs.PrintedReports

/- The exit code of a test. A test that has been completed ends the program with 1 if its report has
   a failed status line, and with 0 otherwise, whether the report is printed for people or as
   JSON. -/
namespace HostHealth.CommandLine

open Net Timed

section Tests

variable {around : Surroundings} {options : Options} {config : Config} {host : Host}
  {start t : Nat} {outcome : Outcome}

/-- An inspector has started, has let the test of the host in, and the test has come to its
    report. -/
def ComesTo (around : Surroundings) (config : Config) (host : Host) (start t : Nat)
    (report : HostReport) : Prop :=
  ∃ u found test inspector,
    (Inspector.start config.policy (around.world config) start).ending = .returned u (.ok found) ∧
    (Inspector.opened config.policy config.resolver u found).ask (around.world config) u host
      (around.interrupt u) = (.ok test, inspector) ∧
    (inspector.course (around.world config) test u).ending = .returned t report

theorem completed_iff :
    (testHost around options config host start).ending = .returned t (.ok outcome) ↔
      ∃ report, ComesTo around config host start t report ∧
        outcome = reportOutcome around.colored options.json report := by
  unfold testHost ComesTo
  dsimp only
  rw [returned_bind_iff]
  constructor
  · rintro ⟨u, value, started, ended⟩
    cases value with
    | error reason =>
      have failed := (returned_pure_iff.mp ended).2
      cases failed
    | ok found =>
      unfold interruptible at ended
      dsimp only at ended
      split at ended
      · cases ended
      · rename_i test inspector admitted
        obtain ⟨w, report, came, printed⟩ := returned_bind_iff.mp ended
        obtain ⟨rfl, same⟩ := returned_pure_iff.mp printed
        cases same
        exact ⟨report, ⟨u, found, test, inspector, started, admitted, came⟩, rfl⟩
  · rintro ⟨report, ⟨u, found, test, inspector, started, admitted, came⟩, rfl⟩
    refine ⟨u, .ok found, started, ?_⟩
    unfold interruptible
    dsimp only
    rw [admitted]
    exact returned_bind_iff.mpr ⟨t, report, came, rfl⟩

theorem run_of_report {args : List String} {invocation : Invocation} {report : HostReport}
    (accepted : Invocation.read args = .ok invocation)
    (effective : invocation.options.effective around = .ok config)
    (tests : invocation.command = .test host)
    (came : ComesTo around config host start t report) :
    (run around args start).ending =
      .returned t (reportOutcome around.colored invocation.options.json report) := by
  have course : runCommand around invocation config =
      testHost around invocation.options config host := by
    simp only [runCommand, tests]
  rw [run_of_effective accepted effective, Invocation.under, course]
  exact returned_bind_iff.mpr ⟨t, _, completed_iff.mpr ⟨report, came, rfl⟩, rfl⟩

theorem code_of_outcome (colored json : Bool) (report : HostReport) :
    ((reportOutcome colored json report).code = 1 ↔ report.hasErrors = true) ∧
      ((reportOutcome colored json report).code = 0 ↔ report.hasErrors = false) := by
  unfold reportOutcome
  cases report.hasErrors with
  | true => simp
  | false => simp

end Tests

/-- What a report says of every probe and in its summary, in its lines and, unless a text breaks a
    line, in the printed text; and how a completed test of a host ends the program. -/
theorem reports_are_accounted_for :
    (∀ probe : ProbeReport,
      (Verdict.ofProbe probe = .fail ↔ probe.errors ≠ []) ∧
      (Verdict.ofProbe probe = .warn ↔ probe.errors = [] ∧ probe.warnings ≠ []) ∧
      (Verdict.ofProbe probe = .pass ↔ probe.errors = [] ∧ probe.warnings = [])) ∧
    (∀ report : HostReport,
      statuses (reportLines report) = (report.results ++ report.rhp3.toList).map
        (fun probe => (.ofProbe probe, probe.netAddress)) ∧
      ∃ passed failed total, IsSummedUp (reportLines report) passed failed total ∧
        (0 < failed ↔ report.hasErrors = true)) ∧
    (∀ (report : HostReport) (colored : Bool), IsUnbroken report →
      printedLines (reportText colored report) =
        (reportLines report).map (fun line => (line.text colored).toList) ∧
      (printedLines (reportText colored report)).filterMap (readStatus? colored) =
        (report.results ++ report.rhp3.toList).map
          fun probe => (.ofProbe probe, probe.netAddress.text.toList)) ∧
    ∀ around args invocation config host start t,
      Invocation.read args = .ok invocation → invocation.command = .test host →
      invocation.options.effective around = .ok config →
      ((∃ outcome, (testHost around invocation.options config host start).ending =
          .returned t (.ok outcome)) ↔ ∃ report, ComesTo around config host start t report) ∧
      ∀ report, ComesTo around config host start t report →
        ∃ outcome, (run around args start).ending = .returned t outcome ∧
          outcome.output = (if invocation.options.json then report.toJson.writeLines ++ "\n"
            else reportText around.colored report) ∧
          (outcome.code = 1 ↔ 0 < verdictCount .fail (reportLines report)) ∧
          (outcome.code = 1 ↔ report.hasErrors = true) ∧
          (outcome.code = 0 ↔ report.hasErrors = false) := by
  refine ⟨verdict_iff, fun report => ⟨statuses_of_report report, ?_⟩,
    fun report colored unbroken => ⟨printed_lines_of_report colored unbroken,
      statuses_of_text colored unbroken⟩, ?_⟩
  · obtain ⟨passed, failed, total, summed⟩ := report_is_summed_up report
    refine ⟨passed, failed, total, summed, ?_⟩
    rw [summed.failures, has_errors_iff]
  · intro around args invocation config host start t accepted tests effective
    constructor
    · constructor
      · rintro ⟨outcome, completed⟩
        obtain ⟨report, came, _⟩ := completed_iff.mp completed
        exact ⟨report, came⟩
      · rintro ⟨report, came⟩
        exact ⟨_, completed_iff.mpr ⟨report, came, rfl⟩⟩
    · intro report came
      obtain ⟨one, zero⟩ := code_of_outcome around.colored invocation.options.json report
      refine ⟨_, run_of_report accepted effective tests came, rfl, ?_, one, zero⟩
      rw [one, has_errors_iff]

namespace Graded

open Inspector

def world : World :=
  { Mixed.world with
    consensus := fun _ => .answer 0 (.ok Mixed.known.consensus)
    releaseName := fun _ => .answer 0 (.ok "v0.0.0") }

def surroundings : Surroundings :=
  { colored := true
    file := fun _ => .error ""
    world := fun _ => world }

def operands : List String :=
  ["ed25519:0101010101010101010101010101010101010101010101010101010101010101",
    "1.2.3.4:1/rhp2", "1.2.3.4:2/siamux", "1.2.3.4:3/siamux", "1.2.3.4:4/quic"]

def asked (json : Bool) : Invocation := ⟨{ Options.unset with json := json }, .test Mixed.host⟩

theorem comes_to_report : ComesTo surroundings .standard Mixed.host 0 1 Mixed.report := by
  have policy : Config.standard.policy = .standard := by decide
  have resolver : Config.standard.resolver = .standard := rfl
  have started : (Inspector.start .standard world 0).ending = .returned 0 (.ok Mixed.known) := rfl
  have admitted : Mixed.inspector.ask world 0 Mixed.host .never =
      (.ok Mixed.test, Mixed.next) := by
    unfold ask
    rw [snapshot_before_refresh Mixed.inspector world (by decide) (by decide)]
    rfl
  refine ⟨0, Mixed.known, Mixed.test, Mixed.next, ?_, ?_, rfl⟩
  · rw [policy]
    exact started
  · rw [policy, resolver]
    exact admitted

theorem mixed_host_fails :
    (printedLines (reportText true Mixed.report)).filterMap (readStatus? true) =
      [(.warn, "1.2.3.4:1/rhp2".toList), (.fail, "1.2.3.4:2/siamux".toList),
        (.fail, "1.2.3.4:3/siamux".toList), (.fail, "1.2.3.4:4/quic".toList)] ∧
    IsSummedUp (reportLines Mixed.report) 1 3 4 ∧
    (∃ outcome, (run surroundings ("test" :: operands) 0).ending = .returned 1 outcome ∧
      outcome.code = 1 ∧ outcome.output = reportText true Mixed.report) ∧
    ∃ outcome, (run surroundings ("--json" :: "test" :: operands) 0).ending = .returned 1 outcome ∧
      outcome.code = 1 ∧ outcome.output = Mixed.report.toJson.writeLines ++ "\n" := by
  obtain ⟨_, tallies, texts, ends⟩ := reports_are_accounted_for
  have errors : Mixed.report.hasErrors = true := by decide
  refine ⟨?_, ?_, ?_, ?_⟩
  · exact (texts Mixed.report true (by decide)).2
  · obtain ⟨_, passed, failed, total, summed, _⟩ := tallies Mixed.report
    have own : (reportLines Mixed.report).filterMap Line.summary? = [(1, 3, 4)] := by decide
    cases own.symm.trans summed.alone
    exact summed
  · obtain ⟨outcome, ended, printed, _, code, _⟩ := (ends surroundings ("test" :: operands)
      (asked false) .standard Mixed.host 0 1 rfl rfl rfl).2 Mixed.report comes_to_report
    exact ⟨outcome, ended, code.mpr errors, printed⟩
  · obtain ⟨outcome, ended, printed, _, code, _⟩ := (ends surroundings
      ("--json" :: "test" :: operands) (asked true) .standard Mixed.host 0 1 rfl rfl rfl).2
      Mixed.report comes_to_report
    exact ⟨outcome, ended, code.mpr errors, printed⟩

end Graded

end HostHealth.CommandLine
