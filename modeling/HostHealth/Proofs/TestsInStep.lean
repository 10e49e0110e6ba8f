import HostHealth.Proofs.LostRaces
import HostHealth.Proofs.Shifts

/- The test of one host at two different times, with the same replies and the same luck so long
   after either start. Nothing about the clock comes into a report. -/
namespace HostHealth

open Net Timed

structure Probe.Client.InStep (s u : Nat) (client other : Probe.Client) : Prop where
  dial : ∀ d address, other.dial (u + d) address = client.dial (s + d) address
  upgrade : ∀ d key, other.upgrade (u + d) key = client.upgrade (s + d) key
  scan : ∀ d address, other.scan (u + d) address = client.scan (s + d) address

namespace Inspector

open Probe

/-- All that a test meets in the worlds, but for the luck of its lookups. The chain and the releases
    are none of it. -/
structure World.InStep (s u : Nat) (world other : World) : Prop where
  system : ∀ d host, other.names.system (u + d) host = world.names.system (s + d) host
  records : ∀ d name type,
    other.names.records (u + d) name type = world.names.records (s + d) name type
  clients : ∀ protocol,
    Option.Rel (Client.InStep s u) (world.clients.find? protocol) (other.clients.find? protocol)

def World.LuckInStep (s u : Nat) (world other : World) : Prop :=
  ∀ protocol d call, other.names.ahead protocol (u + d) call = world.names.ahead protocol (s + d) call

theorem World.InStep.yielding {s u : Nat} {world other : World} (h : world.InStep s u other) :
    world.yielding.InStep s u other.yielding :=
  ⟨h.system, h.records, h.clients⟩

namespace HostTest

def under (test : HostTest) (token : Token) : HostTest := { test with token := token }

section Alike

variable {policy : Policy} {resolver : Dns.Resolver} {world other : World} {test : HostTest}
  {token : Token} {s u : Nat}

theorem probe_alike (worlds : world.InStep s u other) (luck : world.LuckInStep s u other)
    (tokens : test.token.InStep s u token)
    {client clientOther : Client} (clients : client.InStep s u clientOther)
    (address : NetAddress) :
    Alike s u _ (test.probe policy resolver world address client)
      ((test.under token).probe policy resolver other address clientOther) := by
  have asks : Probe.AsksBoth (Alike s u) (test.setup policy resolver world) other.names token
      test.host.publicKey address client clientOther := by
    refine ⟨⟨?_, ?_⟩, ?_, ?_, ?_⟩
    · exact fun host => raced_alike _ _ tokens (fun d => luck _ d _) fun d => worlds.system d host
    · exact fun name type =>
        raced_alike _ _ tokens (fun d => luck _ d _) fun d => worlds.records d name type
    · exact request_alike _ _ tokens fun d => clients.dial d _
    · exact request_alike _ _ tokens fun d => clients.upgrade d _
    · exact request_alike _ _ tokens fun d => clients.scan d _
  have elsewhere : (test.under token).setup policy resolver other =
      (test.setup policy resolver world).elsewhere other.names token := rfl
  unfold probe
  rw [elsewhere]
  exact probes_related (alike_congruent Call s u) asks

theorem lane_alike (worlds : world.InStep s u other) (luck : world.LuckInStep s u other)
    (tokens : test.token.InStep s u token) (seen : List Protocol) (address : NetAddress) :
    Alike s u _ (test.lane policy resolver world seen address)
      ((test.under token).lane policy resolver other seen address) := by
  unfold lane
  dsimp only
  split
  · exact pure_alike _
  · have gate : (test.under token).legacyAllowed = test.legacyAllowed := rfl
    rw [gate]
    split
    · exact pure_alike _
    · rcases rel_iff.mp (worlds.clients address.protocol) with
        ⟨none, noneOther⟩ | ⟨client, clientOther, here, there, clients⟩
      · rw [none, noneOther]
        exact pure_alike _
      · rw [here, there]
        exact rescued_alike (probe_alike worlds luck tokens clients address) _

theorem lanes_alike (worlds : world.InStep s u other) (luck : world.LuckInStep s u other)
    (tokens : test.token.InStep s u token) (seen : List Protocol) (addresses : List NetAddress) :
    List.Forall₂ (Alike s u _) (test.lanes policy resolver world seen addresses)
      ((test.under token).lanes policy resolver other seen addresses) := by
  induction addresses generalizing seen with
  | nil => exact .nil
  | cons address rest ih => exact .cons (lane_alike worlds luck tokens seen address) (ih _)

theorem first_release_of_stamped (s : Nat) (ended : List (Nat × ProbeReport)) :
    firstRelease (stamped s ended) = (firstRelease ended).map fun b => (s + b.1, b.2) := by
  have step : ∀ (best : Option (Nat × String)) (e : Nat × ProbeReport),
      earlier (best.map fun b => (s + b.1, b.2)) (s + e.1, e.2) =
        (earlier best e).map fun b => (s + b.1, b.2) := by
    intro best e
    unfold earlier
    cases newestRelease? e.2 with
    | none => rfl
    | some release =>
      cases best with
      | none => rfl
      | some b =>
        simp only [Option.map_some, Nat.add_lt_add_iff_left]
        split <;> rfl
  have fold : ∀ best : Option (Nat × String),
      (stamped s ended).foldl earlier (best.map fun b => (s + b.1, b.2)) =
        (ended.foldl earlier best).map fun b => (s + b.1, b.2) := by
    induction ended with
    | nil =>
      intro best
      rfl
    | cons e rest ih =>
      intro best
      exact (congrArg (List.foldl earlier · (stamped s rest)) (step best e)).trans (ih _)
  rw [first_release_eq_foldl, first_release_eq_foldl, ← fold none]
  rfl

theorem reconcile_of_stamped (s : Nat) (ended : List (Nat × ProbeReport)) :
    reconcile (stamped s ended) = reconcile ended := by
  have same : ∀ report, agreed (firstRelease (stamped s ended)) report =
      agreed (firstRelease ended) report := by
    intro report
    rw [first_release_of_stamped]
    unfold agreed
    cases firstRelease ended <;> cases newestRelease? report <;> rfl
  simp only [reconcile_eq_map_agreed, same]
  exact List.map_map

theorem host_test_alike (worlds : world.InStep s u other) (luck : world.LuckInStep s u other)
    (tokens : test.token.InStep s u token) :
    Alike s u _ (test.run policy resolver world)
      ((test.under token).run policy resolver other) := by
  apply bind_alike (together_alike (lanes_alike worlds luck tokens [] test.host.netAddresses))
  intro ended
  dsimp only
  rw [reconcile_of_stamped, reconcile_of_stamped]
  have derived : DerivedRelated (Alike s u) policy resolver world other test
      (test.under token) := by
    rcases rel_iff.mp (worlds.clients .rhp3)
      with none | ⟨client, clientOther, here, there, clients⟩
    · exact rel_iff.mpr (Or.inl none)
    · exact rel_iff.mpr
        (Or.inr ⟨client, clientOther, here, there, probe_alike worlds luck tokens clients⟩)
  exact bind_alike (derived_if_due_related (alike_congruent Call s u) derived rfl rfl _)
    fun _ => pure_alike _

theorem in_step_with_itself (world : World) (s : Nat) : world.InStep s s world := by
  refine ⟨fun _ _ => rfl, fun _ _ _ => rfl, ?_⟩
  intro protocol
  cases world.clients.find? protocol with
  | none => exact .none
  | some client => exact .some ⟨fun _ _ => rfl, fun _ _ => rfl, fun _ _ => rfl⟩

theorem host_test_told (policy : Policy) (resolver : Dns.Resolver) (world : World)
    (test : HostTest) (s : Nat) :
    ∃ told, test.run policy resolver world s = Course.seenFrom s id told := by
  have tokens : test.token.InStep s s test.token := fun _ => rfl
  have alike : Alike s s _ (test.run policy resolver world)
      ((test.under test.token).run policy resolver world) :=
    host_test_alike (in_step_with_itself world s) (fun _ _ _ => rfl) tokens
  obtain ⟨told, own, _⟩ := alike 0
  exact ⟨told, own⟩

end Alike

theorem cancelled_later {token : Token} {t u : Nat} (cancelled : token.isCancelled t = true)
    (later : t ≤ u) : token.isCancelled u = true := by
  obtain ⟨_ | c⟩ := token
  · cases cancelled
  · exact decide_eq_true (Nat.le_trans (of_decide_eq_true cancelled) later)

theorem run_of_uncancelled {policy : Policy} {resolver : Dns.Resolver} {world : World}
    {test : HostTest} {token : Token} {start t : Nat} (isOpen : token.isCancelled t = false)
    (ended : ((test.under .never).run policy resolver world start).ending.instant? = some t ∨
      ((test.under token).run policy resolver world start).ending.instant? = some t) :
    (test.under token).run policy resolver world start =
      (test.under .never).run policy resolver world start := by
  obtain ⟨_ | c⟩ := token
  · rfl
  have soon : t < c := Nat.not_le.mp (of_decide_eq_false isOpen)
  exact (host_test_cut c policy resolver world (test.under .never)).same_if_early soon ended

theorem host_test_in_step {policy : Policy} {resolver : Dns.Resolver} {world other : World}
    {test : HostTest} {token tokenOther : Token} {s u d : Nat} (worlds : world.InStep s u other)
    (luck : world.LuckInStep s u other)
    (same : ∀ e ≤ d, tokenOther.isCancelled (u + e) = token.isCancelled (s + e))
    {told : Course Call HostReport} (ended : told.ending.instant? = some d)
    (course : (test.under token).run policy resolver world s = told.seenFrom s id) :
    (test.under tokenOther).run policy resolver other u = told.seenFrom u id := by
  have instant : ∀ origin, (told.seenFrom origin id).ending.instant? = some (origin + d) := by
    intro origin
    change (told.ending.seenFrom origin id).instant? = _
    rw [Ending.instant_seen_from, ended]
    rfl
  cases cancelled : token.isCancelled (s + d) with
  | true =>
    -- From the end on both tokens are cancelled, so they are in step for good.
    have tokens : (test.under token).token.InStep s u tokenOther := by
      intro e
      by_cases during : e ≤ d
      · exact same e during
      · have own := cancelled_later cancelled (by omega : s + d ≤ s + e)
        have others := cancelled_later ((same d (Nat.le_refl d)).trans cancelled)
          (by omega : u + d ≤ u + e)
        exact others.trans own.symm
    exact course_of_alike (host_test_alike worlds luck tokens) course
  | false =>
    have free := run_of_uncancelled cancelled (Or.inr (by rw [course, instant s]))
    have never : (test.under .never).token.InStep s u .never := fun _ => rfl
    have freeOther := course_of_alike (host_test_alike worlds luck never) (free.symm.trans course)
    have openOther := (same d (Nat.le_refl d)).trans cancelled
    have ended' : ((test.under .never).run policy resolver other u).ending.instant? =
        some (u + d) := (congrArg (fun c => c.ending.instant?) freeOther).trans (instant u)
    exact (run_of_uncancelled openOther (Or.inl ended')).trans freeOther

theorem untied_tests_in_step {policy : Policy} {resolver : Dns.Resolver} {world other : World}
    {test : HostTest} {token tokenOther : Token} {s u d c cOther : Nat}
    (worlds : world.InStep s u other)
    (same : ∀ e ≤ d, tokenOther.isCancelled (u + e) = token.isCancelled (s + e))
    (cancelled : token.cancelledAt = some c) (cancelledOther : tokenOther.cancelledAt = some cOther)
    {told toldOther : Course Call HostReport} (ended : told.ending.instant? = some d)
    (course : (test.under token).run policy resolver world s = told.seenFrom s id)
    (courseOther : (test.under tokenOther).run policy resolver other u = toldOther.seenFrom u id)
    (untied : Untied c resolver world ((test.under token).run policy resolver world s).calls)
    (untiedOther : Untied cOther resolver other
      ((test.under tokenOther).run policy resolver other u).calls) :
    toldOther.ending = told.ending := by
  -- Each of the two ends like the test whose lookups all give way, and those are in step.
  have quiet : ∀ {world : World} {token : Token} {start c : Nat} {told : Course Call HostReport},
      token.cancelledAt = some c →
      Untied c resolver world ((test.under token).run policy resolver world start).calls →
      (test.under token).run policy resolver world start = told.seenFrom start id →
      ∃ quiet : Course Call HostReport, quiet.ending = told.ending ∧
        (test.under token).run policy resolver world.yielding start = quiet.seenFrom start id := by
    intro world token start c told cancelled untied course
    have cutAt : (test.under token).token.cancelledAt = some c := cancelled
    obtain ⟨quiet, own⟩ := host_test_told policy resolver world.yielding (test.under token) start
    obtain ⟨alike, _⟩ := host_test_same_untied policy resolver world cutAt start
      fun call member ⟨protocol, isTied⟩ => untied call member protocol isTied
    rw [own, course] at alike
    exact ⟨quiet, ending_seen_from_inj alike, own⟩
  obtain ⟨toldQuiet, endQuiet, own⟩ := quiet cancelled untied course
  obtain ⟨otherQuiet, endOther, ownOther⟩ := quiet cancelledOther untiedOther courseOther
  have inStep := host_test_in_step worlds.yielding (fun _ _ _ => rfl) same
    (endQuiet ▸ ended) own
  rw [← endOther, ← endQuiet, seen_from_inj (ownOther.symm.trans inStep)]

end HostTest
end Inspector
end HostHealth
