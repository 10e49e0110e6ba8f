import HostHealth.Proofs.CancelledTests

/- A test keeps its deadline, whatever its probes do except to crash, and it loses nothing by it
   that was there in time. -/
namespace HostHealth

open Net Timed

theorem crashed_of_within {α : Type} {ending : Ending α} {deadline : Option Nat} {late : α}
    {t : Nat} {reason : String} (crashed : ending.within deadline late = .crashed t reason) :
    ending = .crashed t reason := by
  unfold Ending.within at crashed
  split at crashed
  · split at crashed
    · exact crashed
    · cases crashed
  · cases crashed
  · exact crashed

theorem crashed_of_before {α : Type} {ending : Ending α} {cut : Option Nat} {value : α}
    {t : Nat} {reason : String} (crashed : ending.before cut value = .crashed t reason) :
    ending = .crashed t reason := by
  unfold Ending.before at crashed
  split at crashed
  · split at crashed
    · exact crashed
    · cases crashed
  · cases crashed
  · exact crashed

theorem request_never_crashes {κ α : Type} {reply : Nat → Reply α}
    (calm : ∀ t delay reason, reply t ≠ .crash delay reason) (token : Token)
    (limit : Option Nat) (call : κ) : NeverCrashes (request token limit call reply) := by
  intro start t reason crashed
  unfold request at crashed
  split at crashed
  · cases crashed
  · have own := crashed_of_within (crashed_of_before crashed)
    cases answer : reply start with
    | answer delay value => simp [answer, Reply.ending] at own
    | crash delay other => exact calm start delay other answer
    | silence => simp [answer, Reply.ending] at own

theorem raced_never_crashes {κ α : Type} {reply : Nat → Reply α}
    (calm : ∀ t delay reason, reply t ≠ .crash delay reason) (token : Token) (ahead : Nat → Bool)
    (limit : Option Nat) (call : κ) : NeverCrashes (raced token ahead limit call reply) := by
  intro start t reason crashed
  cases first : ahead start with
  | false =>
    rw [raced_of_behind token limit call reply ahead first] at crashed
    exact request_never_crashes calm token limit call start t reason crashed
  | true =>
    rw [raced_of_ahead token limit call reply ahead first] at crashed
    have own := crashed_of_within (crashed_of_within crashed)
    cases answer : reply start with
    | answer delay value => simp [answer, Reply.ending] at own
    | crash delay other => exact calm start delay other answer
    | silence => simp [answer, Reply.ending] at own

/-- Names may be answered late or not at all, but no question crashes. -/
structure NameService.Calm (names : NameService) : Prop where
  system : ∀ host t delay reason, names.system t host ≠ .crash delay reason
  records : ∀ name type t delay reason, names.records t name type ≠ .crash delay reason

structure Probe.Client.Calm (client : Probe.Client) : Prop where
  dial : ∀ address t delay reason, client.dial t address ≠ .crash delay reason
  upgrade : ∀ key t delay reason, client.upgrade t key ≠ .crash delay reason
  scan : ∀ address t delay reason, client.scan t address ≠ .crash delay reason

theorem Probe.calm_probe_never_crashes {setup : Probe.Setup} {client : Probe.Client}
    (names : setup.names.Calm) (calm : client.Calm) (key : PublicKey) (address : NetAddress) :
    NeverCrashes (Probe.run setup key address client) := by
  have asks : Probe.Asks (fun _ activity => NeverCrashes activity) setup key address client := by
    refine ⟨⟨?_, ?_⟩, ?_, ?_, ?_⟩
    · exact fun host => raced_never_crashes (names.system host) _ _ _ _
    · exact fun name type => raced_never_crashes (names.records name type) _ _ _ _
    · exact request_never_crashes (calm.dial _) _ _ _
    · exact request_never_crashes (calm.upgrade _) _ _ _
    · exact request_never_crashes (calm.scan _) _ _ _
  exact Probe.probe_has never_crashes_inherited asks

namespace Inspector

open Probe

structure World.Calm (world : World) : Prop where
  names : world.names.Calm
  clients : ∀ protocol client, world.clients.find? protocol = some client → client.Calm

namespace HostTest

variable {policy : Policy} {resolver : Dns.Resolver} {world : World} {test : HostTest}

theorem calm_test_never_crashes (calm : world.Calm) :
    NeverCrashes (test.run policy resolver world) := by
  have derived : ∀ results, NeverCrashes (test.derivedIfDue policy resolver world results) :=
    derived_if_due_has never_crashes_inherited fun address client registered =>
      calm_probe_never_crashes calm.names (calm.clients .rhp3 client registered) _ _
  have lanes := together_never_crashes
    (every_lane (lane_never_crashes policy resolver world test) test.host.netAddresses [])
  exact never_crashes_inherited.bind lanes fun ended =>
    never_crashes_inherited.bind (derived _) fun _ => pure_never_crashes _

theorem calm_test_returns_by (policy : Policy) (resolver : Dns.Resolver) {cut : Nat}
    (cancelled : test.token.cancelledAt = some cut) (calm : world.Calm) (start : Nat) :
    ∃ t report, (test.run policy resolver world start).ending = .returned t report ∧
      start ≤ t ∧ t ≤ max start cut := by
  obtain ⟨t, finished, later, bound⟩ := host_test_ends_by cancelled policy resolver world start
  obtain ⟨report, returned⟩ := returned_of_ended finished (calm_test_never_crashes calm start)
  exact ⟨t, report, returned, later, bound⟩

end HostTest

open HostTest

/-- The deadline of a test beside the same test without one. It is kept, the probe of the derived
    address included; what a listed probe had come to before, and the whole of a test that was
    over before, is as it would have been. -/
theorem deadline_is_kept (self next : Inspector) (known world : World) (now : Nat) (host : Host)
    (caller : Token) (test : HostTest) (closing : Option Nat) (calm : world.Calm)
    (admitted : self.ask known now host caller = (.ok test, next)) :
    let inspector := { next with closedAt := closing }
    let deadline := now + self.policy.testTimeout
    let free := { test with token := caller.meet ⟨closing⟩ }
    let lanes := free.lanes inspector.policy inspector.resolver world [] host.netAddresses
    let whole := free.run inspector.policy inspector.resolver world now
    ∃ t report, (inspector.course world test now).ending = .returned t report ∧
      now ≤ t ∧ t ≤ deadline ∧
      (∀ (place u : Nat) lane entry, lanes[place]? = some lane →
        outcome? lanes now lane = some (u, entry) → u < deadline →
        report.results[place]? = some entry) ∧
      (whole.OverBefore deadline → inspector.course world test now = whole) ∧
      (¬ whole.OverBefore deadline → t = deadline) := by
  intro inspector deadline free lanes whole
  obtain ⟨rfl, guardedBy⟩ := test_of_admission admitted
  -- The token of the test holds its deadline and then the closing. The other way round, the test is
  -- one without a deadline that is cut at it.
  have course : inspector.course world test now =
      (free.cutAt deadline).run inspector.policy inspector.resolver world now := by
    have token : test.token.meet ⟨closing⟩ = free.token.meet (.cancelledFrom deadline) := by
      rw [guardedBy]
      exact meet_right_comm _ _ _
    have same : { test with token := test.token.meet ⟨closing⟩ } = free.cutAt deadline := by
      rw [token]
      rfl
    unfold Inspector.course
    rw [← same]
  have law := host_test_cut deadline inspector.policy inspector.resolver world free
  obtain ⟨cut, cancelled, early⟩ := meet_is_cancelled_no_later free.token deadline
  have cancelled' : (free.cutAt deadline).token.cancelledAt = some cut := cancelled
  obtain ⟨t, report, returned, later, bound⟩ :=
    calm_test_returns_by inspector.policy inspector.resolver cancelled' calm now
  rw [course]
  refine ⟨t, report, returned, later, by omega, ?_, ?_, ?_⟩
  · intro place u lane entry there outcome soon
    exact result_before_cut returned there outcome soon
  · rintro ⟨u, finished, soon⟩
    have begun := ((law.orderly now).2 u finished).1
    exact law.kept now (by omega) ⟨u, finished, soon⟩
  · intro running
    by_cases begun : now < deadline
    · obtain ⟨_, atDeadline⟩ := law.broken now begun running
      rw [returned] at atDeadline
      exact Option.some.inj atDeadline
    · omega

namespace Stalling

def known : Snapshot := ⟨⟨⟨0, ""⟩, ⟨1, 1⟩⟩, .zero⟩

def inspector : Inspector := opened .standard .standard 0 known

def host : Host := ⟨.filled 1, [⟨"1.2.3.4:1", .siamux⟩, ⟨"1.2.3.4:2", .quic⟩]⟩

def refusing : Client :=
  { dial := fun _ address => .answer 1 (.error (.refused address))
    upgrade := fun _ _ => .silence
    scan := fun _ _ => .silence }

def stalling : Client := { refusing with dial := fun _ _ => .answer 1 (.ok ()) }

def world : World :=
  { names := .silent
    clients := (Clients.empty.register .siamux refusing).register .quic stalling
    consensus := fun _ => .silence
    releaseName := fun _ => .silence }

def test : HostTest := ⟨host, known, .cancelledFrom Policy.standard.testTimeout⟩

def next : Inspector :=
  { inspector with cooldown := ⟨[(host.publicKey, Policy.standard.cooldown)]⟩ }

def free : HostTest := { test with token := Token.never.meet ⟨none⟩ }

def lanes : List (Timed Call ProbeReport) :=
  free.lanes next.policy next.resolver world [] host.netAddresses

def refused : ProbeReport :=
  { ProbeReport.untouched ⟨"1.2.3.4:1", .siamux⟩ with
    resolvedAddresses := [.v4 ⟨1, 2, 3, 4⟩]
    dialTime := 1
    errors := [(DialError.refused "1.2.3.4:1").message] }

theorem world_is_calm : world.Calm := by
  refine ⟨⟨fun _ _ _ _ => nofun, fun _ _ _ _ _ => nofun⟩, ?_⟩
  intro protocol client registered
  cases protocol
  · cases registered
  · cases registered
  · cases registered
    exact ⟨fun _ _ _ _ => nofun, fun _ _ _ _ => nofun, fun _ _ _ _ => nofun⟩
  · cases registered
    exact ⟨fun _ _ _ _ => nofun, fun _ _ _ _ => nofun, fun _ _ _ _ => nofun⟩

theorem refused_lane : ∃ lane, lanes[0]? = some lane ∧ outcome? lanes 0 lane = some (1, refused) :=
  ⟨_, rfl, rfl⟩

theorem never_over : (free.run next.policy next.resolver world 0).ending = .pending := by rfl

theorem deadline_of_stalled_handshake :
    ∃ report, (next.course world test 0).ending = .returned Policy.standard.testTimeout report ∧
      report.results[0]? = some refused := by
  have admitted : inspector.ask world 0 host .never = (.ok test, next) := by
    unfold ask
    rw [snapshot_before_refresh inspector world (by decide) (by decide)]
    rfl
  obtain ⟨t, report, returned, _, _, kept, _, late⟩ :=
    deadline_is_kept inspector next world world 0 host .never test none world_is_calm admitted
  have running : ¬ (free.run next.policy next.resolver world 0).OverBefore
      (0 + Policy.standard.testTimeout) := by
    rintro ⟨u, finished, _⟩
    rw [never_over] at finished
    cases finished
  obtain ⟨lane, there, outcome⟩ := refused_lane
  have atDeadline := late running
  rw [Nat.zero_add] at atDeadline
  subst atDeadline
  exact ⟨report, returned, kept 0 1 lane refused there outcome (by decide)⟩

end Stalling
end Inspector
end HostHealth
