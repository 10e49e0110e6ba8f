import HostHealth.CommandLine.Run
import HostHealth.Offline
import HostHealth.Proofs.CancelledTests
import HostHealth.Proofs.CrashContainment

/- Positive times. What a file says is judged before the options are put over it, so the options
   decide about the one time that they can set. That time is zero when they ask for zero, which a
   file may not do; the other times are positive in every command that is run. -/
namespace HostHealth

namespace Config

/-- The times of a command apart from that of a whole test. -/
structure IsPaced (config : Config) : Prop where
  tipRefresh : 0 < config.policy.tipRefresh
  releaseRefresh : 0 < config.policy.releaseRefresh
  dialTimeout : 0 < config.policy.dialTimeout
  queryTimeout : 0 < config.resolver.timeout

def FirstZero (config : Config) (key : String) : Prop :=
  ∃ before after, config.positives = before ++ (key, 0) :: after ∧ ∀ entry ∈ before, entry.2 ≠ 0

theorem first_zero_iff {config : Config} {key : String} :
    config.firstZero? = some key ↔ config.FirstZero key := by
  unfold firstZero? FirstZero
  constructor
  · intro found
    obtain ⟨⟨_, span⟩, first, rfl⟩ := Option.map_eq_some_iff.mp found
    obtain ⟨zero, before, after, split, nonzero⟩ := List.find?_eq_some_iff_append.mp first
    obtain rfl : span = 0 := by simpa using zero
    exact ⟨before, after, split, by simpa using nonzero⟩
  · rintro ⟨before, after, split, nonzero⟩
    refine Option.map_eq_some_iff.mpr ⟨(key, 0), ?_, rfl⟩
    exact List.find?_eq_some_iff_append.mpr
      ⟨by simp, before, after, split, by simpa using nonzero⟩

theorem seconds_pos_iff (seconds : UInt64) : 0 < Span.ofSeconds seconds.toNat ↔ seconds ≠ 0 := by
  have zero : seconds = 0 ↔ seconds.toNat = 0 := by
    rw [← UInt64.toNat_inj]
    rfl
  rw [Span.ofSeconds, ne_eq, zero]
  omega

theorem is_valid_iff (config : Config) :
    config.IsValid ↔ 0 < config.policy.testTimeout ∧ config.IsPaced := by
  have times : config.IsValid ↔ config.inspection.testTimeout ≠ 0 ∧
      config.inspection.tipRefresh ≠ 0 ∧ config.inspection.releaseRefresh ≠ 0 ∧
      config.inspection.dialTimeout ≠ 0 ∧ config.lookup.queryTimeout ≠ 0 := by
    simp [IsValid, positives]
  rw [times]
  simp only [← seconds_pos_iff]
  constructor
  · rintro ⟨test, tip, release, dial, query⟩
    exact ⟨test, tip, release, dial, query⟩
  · rintro ⟨test, tip, release, dial, query⟩
    exact ⟨test, tip, release, dial, query⟩

theorem standard_is_valid : standard.IsValid := by decide

end Config

namespace CommandLine

open Config Timed

variable {around : Surroundings} {args : List String} {invocation : Invocation}
  {options : Options} {config : Config}

theorem file_is_valid (found : options.file around = .ok config) : config.IsValid := by
  unfold Options.file at found
  split at found
  · cases found
    exact standard_is_valid
  · split at found
    · cases found
    · split at found
      · cases found
      · cases found
        exact isValid_of_read ‹_›

theorem base_of_effective (effective : options.effective around = .ok config) :
    ∃ base, options.file around = .ok base ∧ options.override base = config := by
  unfold Options.effective at effective
  cases found : options.file around with
  | error failure =>
    rw [found] at effective
    cases effective
  | ok base =>
    rw [found] at effective
    cases effective
    exact ⟨base, rfl, rfl⟩

theorem is_paced_override (options : Options) (paced : config.IsPaced) :
    (options.override config).IsPaced :=
  ⟨paced.tipRefresh, paced.releaseRefresh, paced.dialTimeout, paced.queryTimeout⟩

theorem override_test_timeout_pos_iff (given : 0 < config.policy.testTimeout) :
    0 < (options.override config).policy.testTimeout ↔ options.timeout ≠ some 0 := by
  have time : (options.override config).policy.testTimeout =
      Span.ofSeconds (options.timeout.getD config.inspection.testTimeout).toNat := rfl
  rw [time, seconds_pos_iff]
  cases asked : options.timeout with
  | none => simpa using (seconds_pos_iff _).mp given
  | some seconds => simp

theorem override_is_valid_iff (valid : config.IsValid) :
    (options.override config).IsValid ↔ options.timeout ≠ some 0 := by
  obtain ⟨given, paced⟩ := (is_valid_iff config).mp valid
  rw [is_valid_iff, override_test_timeout_pos_iff given]
  exact and_iff_left (is_paced_override options paced)

def Surroundings.conclude (around : Surroundings) : Except Failure Outcome → Outcome
  | .error failure => .failed around.colored failure
  | .ok outcome => outcome

def Invocation.under (around : Surroundings) (invocation : Invocation) (config : Config) :
    Timed Call Outcome := do
  return around.conclude (← runCommand around invocation config)

theorem run_of_effective (accepted : Invocation.read args = .ok invocation)
    (found : invocation.options.effective around = .ok config) :
    run around args = invocation.under around config := by
  simp only [run, accepted, Invocation.run, found]
  refine congrArg (Timed.bind (runCommand around invocation config)) (funext fun ended => ?_)
  cases ended <;> rfl

theorem run_of_failure {failure : Failure} (accepted : Invocation.read args = .ok invocation)
    (failed : invocation.options.effective around = .error failure) :
    run around args = return .failed around.colored failure := by
  simp only [run, accepted, Invocation.run, failed]

theorem file_with_zero {path text : String} {written : Config}
    (named : options.configFile = some path) (found : around.file path = .ok text)
    (reads : (Toml.read text).bind Config.ofEntries = some written) (invalid : ¬ written.IsValid) :
    ∃ key, written.FirstZero key ∧
      options.effective around = .error (.config (.notPositive key)) := by
  cases zero : written.firstZero? with
  | none => exact absurd (firstZero?_eq_none_iff.mp zero) invalid
  | some key =>
    have refused : Config.read text = .error (.notPositive key) := by
      simp only [Config.read, reads, zero]
    refine ⟨key, first_zero_iff.mp zero, ?_⟩
    simp only [Options.effective, Options.file, named, found, refused]
    rfl

/-- The times of a command that is run are positive, but for that of a whole test, which is zero
    when the options ask for zero and not otherwise. Where a file has a zero no command is run and
    nobody is asked for anything, whatever the options; the first of its zeros is blamed. -/
theorem only_time_asked_for_is_zero (around : Surroundings) (args : List String)
    (invocation : Invocation) (accepted : Invocation.read args = .ok invocation) :
    (∀ config, invocation.options.effective around = .ok config →
      run around args = invocation.under around config ∧ config.IsPaced ∧
        (config.IsValid ↔ invocation.options.timeout ≠ some 0)) ∧
    (∀ path text written, invocation.options.configFile = some path →
      around.file path = .ok text → (Toml.read text).bind Config.ofEntries = some written →
      ¬ written.IsValid → ∃ key, written.FirstZero key ∧ ∀ start, run around args start =
        ⟨[], .returned start (.failed around.colored (.config (.notPositive key)))⟩) := by
  constructor
  · intro config effective
    obtain ⟨base, found, rfl⟩ := base_of_effective effective
    have valid := file_is_valid found
    obtain ⟨_, paced⟩ := (is_valid_iff base).mp valid
    exact ⟨run_of_effective accepted effective, is_paced_override _ paced,
      override_is_valid_iff valid⟩
  · intro path text written named found reads invalid
    obtain ⟨key, first, refused⟩ := file_with_zero named found reads invalid
    refine ⟨key, first, fun start => ?_⟩
    rw [run_of_failure accepted refused]
    rfl

namespace Hurried

def host : Net.Host :=
  { publicKey := ⟨List.replicate 32 0xab, rfl⟩
    netAddresses := [⟨"h:1", .siamux⟩] }

def noTime : List String :=
  ["--timeout", "0", "test",
    "ed25519:abababababababababababababababababababababababababababababababab", "h:1/siamux"]

def zerosInFile : List String := ["--timeout", "5", "-c", "zeros.toml", "resolve", "h"]

def text : String := "[dns]\nquery_timeout_secs = 0\n[manager]\ndial_timeout_secs = 0\n"

def surroundings : Surroundings :=
  { colored := false
    file := fun _ => .ok text
    world := fun config =>
      Offline.world config.resolver.timeout config.explorer.address config.policy }

def asked : Invocation := ⟨{ Options.unset with timeout := some 0 }, .test host⟩

def fromFile : Invocation :=
  ⟨{ Options.unset with timeout := some 5, configFile := some "zeros.toml" }, .resolve "h"⟩

def zeros : Config :=
  { Config.standard with
    inspection := { Config.standard.inspection with dialTimeout := 0 }
    lookup := { Config.standard.lookup with queryTimeout := 0 } }

theorem zero_from_the_options_only :
    (∃ config, run surroundings noTime = asked.under surroundings config ∧ config.IsPaced ∧
      ¬ config.IsValid) ∧
    ∀ start, run surroundings zerosInFile start = ⟨[], .returned start
      (.failed false (.config (.notPositive "manager.dial_timeout_secs")))⟩ := by
  constructor
  · obtain ⟨ran, paced, valid⟩ :=
      (only_time_asked_for_is_zero surroundings noTime asked rfl).1 _ rfl
    exact ⟨_, ran, paced, fun isValid => valid.mp isValid rfl⟩
  · intro start
    obtain ⟨key, first, refused⟩ :=
      (only_time_asked_for_is_zero surroundings zerosInFile fromFile rfl).2 "zeros.toml" text
        zeros rfl rfl (by decide +kernel) (by decide)
    have blamed : zeros.firstZero? = some "manager.dial_timeout_secs" := by decide
    rw [first_zero_iff.mpr first] at blamed
    cases blamed
    exact refused start

end Hurried

/-! A test in no time -/

theorem timeless_course_at_once {self next : Inspector} {known : Inspector.World} {now : Nat}
    {host : Net.Host} {caller : Token} {test : Inspector.HostTest} (world : Inspector.World)
    (timeless : self.policy.testTimeout = 0)
    (admitted : self.ask known now host caller = (.ok test, next)) :
    (next.course world test now).ending.instant? = some now := by
  -- The token of the test holds its deadline and then the closing; with the two exchanged the
  -- test is one that is cut at the instant of its start.
  have token : test.token.meet ⟨next.closedAt⟩ =
      (caller.meet ⟨next.closedAt⟩).meet (.cancelledFrom now) := by
    rw [(Inspector.test_of_admission admitted).2, timeless]
    exact meet_right_comm _ _ _
  unfold Inspector.course
  rw [token]
  exact (Inspector.HostTest.host_test_cut now next.policy next.resolver world
    { test with token := caller.meet ⟨next.closedAt⟩ }).idle now (Nat.le_refl now)

theorem test_in_no_time (options : Options) (host : Net.Host) {start t : Nat}
    {found : Except Inspector.StartError Inspector.Snapshot}
    (timeless : config.policy.testTimeout = 0)
    (started : (Inspector.start config.policy (around.world config) start).ending =
      .returned t found) :
    (testHost around options config host start).ending.instant? = some t := by
  unfold testHost
  rw [bind_of_returned started]
  cases found with
  | error reason => rfl
  | ok found =>
    unfold interruptible
    dsimp only
    split
    · rfl
    · rename_i test next admitted
      have atOnce := timeless_course_at_once (around.world config) timeless admitted
      cases ended : (next.course (around.world config) test t).ending with
      | returned | crashed | pending =>
        rw [ended] at atOnce
        simp only [Timed.bind, ended]
        exact atOnce

end CommandLine
end HostHealth
