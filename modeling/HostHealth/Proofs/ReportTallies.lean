import HostHealth.CommandLine.Report

/- The tallies of a report. It has one status line for every probe; the failures that are counted
   while the probes are printed are its failed status lines, and no others. -/
namespace HostHealth.CommandLine

open Net

variable {probe : ProbeReport} {done : List ProbeReport} {progress : Progress}

def Line.status? : Line → Option (Verdict × NetAddress)
  | .status verdict address => some (verdict, address)
  | _ => none

def Line.summary? : Line → Option (Nat × Nat × Nat)
  | .summary passed failed total => some (passed, failed, total)
  | _ => none

def statuses (lines : List Line) : List (Verdict × NetAddress) := lines.filterMap Line.status?

def verdictCount (verdict : Verdict) (lines : List Line) : Nat :=
  (statuses lines).countP fun status => status.1 = verdict

/-- A summary stands at the end and nowhere else, and it has the counts of the status lines. -/
structure IsSummedUp (lines : List Line) (passed failed total : Nat) : Prop where
  last : lines.getLast? = some (.summary passed failed total)
  alone : lines.filterMap Line.summary? = [(passed, failed, total)]
  failures : failed = verdictCount .fail lines
  entries : total = (statuses lines).length
  fits : failed ≤ total
  rest : passed = total - failed
  passes : passed = verdictCount .pass lines + verdictCount .warn lines

theorem verdict_iff (probe : ProbeReport) :
    (Verdict.ofProbe probe = .fail ↔ probe.errors ≠ []) ∧
      (Verdict.ofProbe probe = .warn ↔ probe.errors = [] ∧ probe.warnings ≠ []) ∧
      (Verdict.ofProbe probe = .pass ↔ probe.errors = [] ∧ probe.warnings = []) := by
  unfold Verdict.ofProbe ProbeReport.hasErrors
  cases probe.errors <;> cases probe.warnings <;> simp

/-- What has been printed on these probes, and the failures counted on the way. -/
structure Progress.Covers (progress : Progress) (done : List ProbeReport) : Prop where
  lines : progress.lines = done.flatMap probeLines
  failed : progress.failed = done.countP ProbeReport.hasErrors

theorem next_covers (covers : progress.Covers done) (probe : ProbeReport) :
    (progress.next probe).Covers (done ++ [probe]) := by
  constructor
  · simp [Progress.next, covers.lines]
  · simp only [Progress.next, covers.failed, List.countP_append, List.countP_singleton]
    split <;> omega

theorem all_covered (covers : progress.Covers done) (rest : List ProbeReport) :
    (rest.foldl Progress.next progress).Covers (done ++ rest) := by
  induction rest generalizing done progress with
  | nil => simpa using covers
  | cons probe rest ih => simpa using ih (next_covers covers probe)

def heading (report : HostReport) : List Line :=
  [.blank, .rule '=', .title, .rule '=', .publicKey report.publicKey, .version report.version,
   .blank]

def failures (report : HostReport) : Nat := report.all.countP ProbeReport.hasErrors

theorem report_lines_eq (report : HostReport) :
    reportLines report = heading report ++ report.all.flatMap probeLines ++ [.rule '-',
      .summary (report.all.length - failures report) (failures report) report.all.length] := by
  have nothing : Progress.Covers ⟨[], 0⟩ [] := ⟨rfl, rfl⟩
  have covered := all_covered nothing report.all
  unfold reportLines
  dsimp only
  rw [covered.lines, covered.failed]
  rfl

def details (probe : ProbeReport) : List Line := (probeLines probe).tail

theorem mem_details {line : Line} (member : line ∈ details probe) :
    line = .resolved probe.resolvedAddresses ∨ line = .timings (passedStages probe) ∨
      (∃ text ∈ probe.errors, line = .error text) ∨
      (∃ text ∈ probe.warnings, line = .warning text) ∨ line = .blank := by
  simp only [details, probeLines, List.cons_append, List.nil_append, List.tail_cons,
    List.mem_append, List.mem_map, List.mem_singleton] at member
  rcases member with (((resolved | timings) | ⟨text, own, rfl⟩) | ⟨text, own, rfl⟩) | blank
  · split at resolved <;> simp_all
  · split at timings <;> simp_all
  · exact .inr (.inr (.inl ⟨text, own, rfl⟩))
  · exact .inr (.inr (.inr (.inl ⟨text, own, rfl⟩)))
  · exact .inr (.inr (.inr (.inr blank)))

theorem details_are_plain (probe : ProbeReport) :
    ∀ line ∈ details probe, line.status? = none ∧ line.summary? = none := by
  intro line member
  rcases mem_details member with rfl | rfl | ⟨_, _, rfl⟩ | ⟨_, _, rfl⟩ | rfl <;> exact ⟨rfl, rfl⟩

theorem statuses_append (front back : List Line) :
    statuses (front ++ back) = statuses front ++ statuses back :=
  List.filterMap_append

theorem statuses_of_probes (probes : List ProbeReport) :
    statuses (probes.flatMap probeLines) =
      probes.map fun probe => (.ofProbe probe, probe.netAddress) := by
  induction probes with
  | nil => rfl
  | cons probe rest ih =>
    have below : statuses (details probe) = [] :=
      List.filterMap_eq_nil_iff.mpr fun line member => (details_are_plain probe line member).1
    have own : statuses (probeLines probe) =
        (.ofProbe probe, probe.netAddress) :: statuses (details probe) := rfl
    rw [List.flatMap_cons, statuses_append, own, below, ih, List.map_cons, List.singleton_append]

theorem statuses_of_report (report : HostReport) : statuses (reportLines report) =
    report.all.map fun probe => (.ofProbe probe, probe.netAddress) := by
  have top : statuses (heading report) = [] := rfl
  rw [report_lines_eq, statuses_append, statuses_append, statuses_of_probes, top, List.nil_append]
  exact List.append_nil _

theorem no_summary_of_probes (probes : List ProbeReport) :
    (probes.flatMap probeLines).filterMap Line.summary? = [] := by
  rw [List.filterMap_eq_nil_iff]
  intro line member
  obtain ⟨probe, _, own⟩ := List.mem_flatMap.mp member
  rcases List.mem_cons.mp own with rfl | below
  · rfl
  · exact (details_are_plain probe line below).2

theorem verdict_count_of_report (verdict : Verdict) (report : HostReport) :
    verdictCount verdict (reportLines report) =
      report.all.countP fun probe => Verdict.ofProbe probe = verdict := by
  rw [verdictCount, statuses_of_report, List.countP_map]
  rfl

theorem failures_eq_count (report : HostReport) :
    failures report = verdictCount .fail (reportLines report) := by
  rw [verdict_count_of_report]
  refine List.countP_congr fun probe _ => ?_
  rw [decide_eq_true_iff, (verdict_iff probe).1]
  simp [ProbeReport.hasErrors]

theorem verdicts_make_all (probes : List ProbeReport) :
    probes.countP (fun probe => Verdict.ofProbe probe = .pass) +
        probes.countP (fun probe => Verdict.ofProbe probe = .warn) +
        probes.countP (fun probe => Verdict.ofProbe probe = .fail) = probes.length := by
  induction probes with
  | nil => rfl
  | cons probe rest ih =>
    simp only [List.countP_cons, List.length_cons]
    cases Verdict.ofProbe probe <;> simp <;> omega

theorem report_is_summed_up (report : HostReport) :
    ∃ passed failed total, IsSummedUp (reportLines report) passed failed total := by
  have all := verdicts_make_all report.all
  have failed := failures_eq_count report
  refine ⟨report.all.length - failures report, failures report, report.all.length, ?_⟩
  constructor
  · simp [report_lines_eq]
  · rw [report_lines_eq, List.filterMap_append, List.filterMap_append, no_summary_of_probes]
    rfl
  · exact failed
  · simp [statuses_of_report]
  · exact List.countP_le_length
  · rfl
  · simp only [verdict_count_of_report] at failed ⊢
    omega

theorem has_errors_iff (report : HostReport) :
    report.hasErrors = true ↔ 0 < verdictCount .fail (reportLines report) := by
  rw [← failures_eq_count]
  simp [HostReport.hasErrors, failures, List.countP_pos_iff]

end HostHealth.CommandLine
