import HostHealth.Proofs.CrashContainment

/- What the addresses of a host come to in the results. A report shows its own release next to
   the first one that the host reported, and the first one is already known when the report is
   made: no address that ends later makes a difference. -/
namespace HostHealth.Inspector

open Net Probe Timed

namespace HostTest

def agreed (first : Option (Nat × String)) (report : ProbeReport) : ProbeReport :=
  match first, newestRelease? report with
  | some f, some release =>
    if f.2 = release then report
    else report.withError
      ("host is reporting multiple versions " ++ Text.quote f.2 ++ " and " ++ Text.quote release)
  | _, _ => report

def earlier (best : Option (Nat × String)) (e : Nat × ProbeReport) : Option (Nat × String) :=
  match newestRelease? e.2, best with
  | none, _ => best
  | some release, none => some (e.1, release)
  | some release, some b => if e.1 < b.1 then some (e.1, release) else some b

def endedBy (t : Nat) (lanes : List (Timed Call ProbeReport)) (start : Nat) :
    List (Nat × ProbeReport) :=
  lanes.filterMap fun lane =>
    match (lane start).ending with
    | .returned u report => if u ≤ t then some (u, report) else none
    | _ => none

/-- When a lane ends beside the others, and its report with what the others reported by then. -/
def outcome? (lanes : List (Timed Call ProbeReport)) (start : Nat)
    (lane : Timed Call ProbeReport) : Option (Nat × ProbeReport) :=
  match (lane start).ending with
  | .returned u own => some (u, agreed (firstRelease (endedBy u lanes start)) own)
  | _ => none

theorem reconcile_eq_map_agreed (ended : List (Nat × ProbeReport)) :
    reconcile ended = ended.map fun e => agreed (firstRelease ended) e.2 := rfl

theorem first_release_eq_foldl (ended : List (Nat × ProbeReport)) :
    firstRelease ended = ended.foldl earlier none := rfl

theorem untouched_is_silent {report : ProbeReport} (unset : report.settings = none) :
    newestRelease? report = none := by
  unfold newestRelease? ProbeReport.release
  simp [unset]

theorem agreed_of_silent {report : ProbeReport} (silent : newestRelease? report = none)
    (first : Option (Nat × String)) : agreed first report = report := by
  unfold agreed
  rw [silent]
  cases first <;> rfl

theorem agreed_keeps_rest (first : Option (Nat × String)) (report : ProbeReport) :
    ∃ added, agreed first report = { report with errors := report.errors ++ added } := by
  have same : report = { report with errors := report.errors ++ [] } := by simp
  unfold agreed
  split
  · split
    · exact ⟨[], same⟩
    · exact ⟨_, rfl⟩
  · exact ⟨[], same⟩

theorem earlier_by (t : Nat) (best : Option (Nat × String)) (e : Nat × ProbeReport) :
    (earlier best e).filter (fun b => b.1 ≤ t) =
      if e.1 ≤ t then earlier (best.filter fun b => b.1 ≤ t) e
      else best.filter fun b => b.1 ≤ t := by
  unfold earlier
  cases newestRelease? e.2 with
  | none => simp
  | some release =>
    cases best with
    | none => simp [Option.filter_some]
    | some b =>
      by_cases soon : e.1 ≤ t
      · by_cases known : b.1 ≤ t
        · by_cases first : e.1 < b.1
          · simp [Option.filter_some, soon, known, first]
          · simp [Option.filter_some, soon, known, first]
        · have first : e.1 < b.1 := by omega
          simp [Option.filter_some, soon, known, first]
      · by_cases first : e.1 < b.1
        · have unknown : ¬ b.1 ≤ t := by omega
          simp [Option.filter_some, soon, unknown, first]
        · simp [soon, first]

theorem earliest_by (t : Nat) (ended : List (Nat × ProbeReport)) (best : Option (Nat × String)) :
    (ended.foldl earlier best).filter (fun b => b.1 ≤ t) =
      (ended.filter fun e => e.1 ≤ t).foldl earlier (best.filter fun b => b.1 ≤ t) := by
  induction ended generalizing best with
  | nil => rfl
  | cons e rest ih =>
    rw [List.foldl_cons, ih, earlier_by]
    by_cases soon : e.1 ≤ t
    · simp [soon]
    · simp [soon]

theorem earliest_no_later {ended : List (Nat × ProbeReport)} {best : Option (Nat × String)}
    {t : Nat} (known : (∃ b ∈ best, b.1 ≤ t) ∨
      ∃ report, (t, report) ∈ ended ∧ (newestRelease? report).isSome) :
    ∃ b ∈ ended.foldl earlier best, b.1 ≤ t := by
  induction ended generalizing best with
  | nil => simpa using known
  | cons e rest ih =>
    apply ih
    rcases known with ⟨b, rfl, soon⟩ | ⟨report, member, some⟩
    · left
      unfold earlier
      cases newestRelease? e.2 with
      | none => exact ⟨b, rfl, soon⟩
      | some release =>
        by_cases first : e.1 < b.1
        · exact ⟨(e.1, release), by simp [first], by simp; omega⟩
        · exact ⟨b, by simp [first], soon⟩
    · rcases List.mem_cons.mp member with rfl | member
      · left
        obtain ⟨release, own⟩ := Option.isSome_iff_exists.mp some
        unfold earlier
        rw [own]
        cases best with
        | none => exact ⟨(t, release), rfl, by simp⟩
        | some b =>
          by_cases first : t < b.1
          · exact ⟨(t, release), by simp [first], by simp⟩
          · exact ⟨b, by simp [first], by omega⟩
      · exact Or.inr ⟨report, member, some⟩

theorem agreed_with_ended_by {ended : List (Nat × ProbeReport)} {t : Nat} {own : ProbeReport}
    (member : (t, own) ∈ ended) :
    agreed (firstRelease ended) own =
      agreed (firstRelease (ended.filter fun e => e.1 ≤ t)) own := by
  cases reported : newestRelease? own with
  | none => rw [agreed_of_silent reported, agreed_of_silent reported]
  | some release =>
    have known : ∃ b ∈ ended.foldl earlier none, b.1 ≤ t :=
      earliest_no_later (Or.inr ⟨own, member, by rw [reported]; rfl⟩)
    obtain ⟨b, first, soon⟩ := known
    have byThen := earliest_by t ended none
    rw [Option.mem_def] at first
    rw [first] at byThen
    rw [first_release_eq_foldl, first_release_eq_foldl, first]
    change _ = (ended.filter fun e => e.1 ≤ t).foldl earlier none at byThen
    rw [← byThen]
    simp [Option.filter_some, soon]

theorem ended_by_of_each {lanes : List (Timed Call ProbeReport)} {start : Nat}
    {ended : List (Nat × ProbeReport)}
    (each : List.Forall₂ (fun lane e => (lane start).ending = .returned e.1 e.2) lanes ended)
    (t : Nat) : endedBy t lanes start = ended.filter fun e => e.1 ≤ t := by
  induction each with
  | nil => rfl
  | @cons lane e lanes ended own _ ih =>
    unfold endedBy at ih ⊢
    by_cases soon : e.1 ≤ t
    · simp [own, soon, ih]
    · simp [own, soon, ih]

theorem reconciled_outcomes {lanes : List (Timed Call ProbeReport)} {start : Nat}
    {ended : List (Nat × ProbeReport)}
    (each : List.Forall₂ (fun lane e => (lane start).ending = .returned e.1 e.2) lanes ended)
    {place : Nat} {lane : Timed Call ProbeReport} (there : lanes[place]? = some lane) :
    ∃ t entry, outcome? lanes start lane = some (t, entry) ∧
      (reconcile ended)[place]? = some entry := by
  obtain ⟨⟨t, own⟩, found, returned⟩ := forall₂_at each there
  have member : (t, own) ∈ ended := List.mem_of_getElem? found
  refine ⟨t, agreed (firstRelease ended) own, ?_, ?_⟩
  · unfold outcome?
    rw [returned]
    dsimp only
    rw [ended_by_of_each each t, ← agreed_with_ended_by member]
  · rw [reconcile_eq_map_agreed, List.getElem?_map, found]
    rfl

end HostTest
end HostHealth.Inspector
