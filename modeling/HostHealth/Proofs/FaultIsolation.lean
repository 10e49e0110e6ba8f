import HostHealth.Proofs.LostRaces
import HostHealth.Proofs.ReleaseDisputes

/- What the client of one protocol can do to the entries of the others. Whatever it does, it does
   to itself, but for one thing: of two addresses of the newest generation the one that finishes
   first is the one that the other's release is held against. -/
namespace HostHealth.Inspector

open Net Probe Timed

/-- The same world but for the client of one protocol, and for the luck of its lookups. -/
structure World.AgreesOff (world other : World) (protocol : Protocol) : Prop where
  names : other.names.yielding = world.names.yielding
  clients : ∀ q, q ≠ protocol → other.clients.find? q = world.clients.find? q

/-- The lookups that are made for a protocol have the same luck in both worlds, or none of these
    wins a race at `c`. -/
def World.RaceAlike (c : Nat) (resolver : Dns.Resolver) (world other : World) (protocol : Protocol)
    (calls callsOther : List (Nat × Call)) : Prop :=
  other.names.facing protocol = world.names.facing protocol ∨
    (∀ call ∈ calls, ¬ resolver.TiedAt c (world.names.facing protocol) call) ∧
    ∀ call ∈ callsOther, ¬ resolver.TiedAt c (other.names.facing protocol) call

theorem World.RaceAlike.mono {c : Nat} {resolver : Dns.Resolver} {world other : World}
    {protocol : Protocol} {calls callsOther fewer fewerOther : List (Nat × Call)}
    (h : world.RaceAlike c resolver other protocol calls callsOther)
    (sub : ∀ call ∈ fewer, call ∈ calls) (subOther : ∀ call ∈ fewerOther, call ∈ callsOther) :
    world.RaceAlike c resolver other protocol fewer fewerOther := by
  refine h.imp_right fun ⟨untied, untiedOther⟩ => ⟨?_, ?_⟩
  · exact fun call member => untied call (sub call member)
  · exact fun call member => untiedOther call (subOther call member)

namespace HostTest

variable {policy : Policy} {resolver : Dns.Resolver} {world other : World} {test : HostTest}
  {protocol : Protocol}

theorem probe_of_same_names {address : NetAddress}
    (same : other.names.facing address.protocol = world.names.facing address.protocol)
    (client : Client) :
    test.probe policy resolver other address client =
      test.probe policy resolver world address client := by
  have trivially : Inherited fun α (_ : Timed Call α) => True :=
    ⟨fun _ => trivial, fun _ _ => trivial, fun _ => trivial⟩
  have asks : Probe.AsksBoth (Only fun _ _ => True) (test.setup policy resolver world) other.names
      test.token test.host.publicKey address client client := by
    refine ⟨?_, ⟨rfl, trivial⟩, ⟨rfl, trivial⟩, ⟨rfl, trivial⟩⟩
    rw [same]
    exact ⟨fun _ => ⟨rfl, trivial⟩, fun _ _ => ⟨rfl, trivial⟩⟩
  exact (probes_related (only_congruent trivially) asks).1

theorem lane_of_same_client {address : NetAddress} (seen : List Protocol)
    (registered : other.clients.find? address.protocol = world.clients.find? address.protocol)
    (same : other.names.facing address.protocol = world.names.facing address.protocol) :
    test.lane policy resolver other seen address =
      test.lane policy resolver world seen address := by
  unfold lane
  simp only [registered, probe_of_same_names same]

theorem lane_of_other_client {c start : Nat} (cancelled : test.token.cancelledAt = some c)
    (same : world.AgreesOff other protocol) (seen : List Protocol) {address : NetAddress}
    (foreign : address.protocol ≠ protocol)
    (races : world.RaceAlike c resolver other address.protocol
      (test.lane policy resolver world seen address start).calls
      (test.lane policy resolver other seen address start).calls) :
    (test.lane policy resolver other seen address start).ending =
      (test.lane policy resolver world seen address start).ending := by
  have registered := same.clients _ foreign
  rcases races with lucky | ⟨untied, untiedOther⟩
  · rw [lane_of_same_client seen registered lucky]
  · -- Both are like the lane in which every lookup gives way.
    have yielding : test.lane policy resolver other.yielding seen address =
        test.lane policy resolver world.yielding seen address :=
      lane_of_same_client seen registered
        (congrArg (NameService.facing · address.protocol) same.names)
    have own := (lane_same_untied policy resolver world cancelled seen address start untied).1
    have ownOther :=
      (lane_same_untied policy resolver other cancelled seen address start untiedOther).1
    rw [← own, ← ownOther, yielding]

/-- The reports of a place in two runs. They are the same, or neither has a release to tell. -/
def SameToOthers (e f : Nat × ProbeReport) : Prop :=
  f = e ∨ newestRelease? e.2 = none ∧ newestRelease? f.2 = none

theorem first_release_same {ended endedOther : List (Nat × ProbeReport)}
    (each : List.Forall₂ SameToOthers ended endedOther) :
    firstRelease endedOther = firstRelease ended := by
  have step : ∀ {e f : Nat × ProbeReport}, SameToOthers e f → ∀ best,
      earlier best f = earlier best e := by
    rintro e f (rfl | ⟨silentE, silentF⟩) best
    · rfl
    · unfold earlier
      rw [silentE, silentF]
  have fold : ∀ best, endedOther.foldl earlier best = ended.foldl earlier best := by
    induction each with
    | nil =>
      intro best
      rfl
    | cons head _ ih =>
      intro best
      rw [List.foldl_cons, List.foldl_cons, step head, ih]
  rw [first_release_eq_foldl, first_release_eq_foldl, fold]

section Runs

variable {c start t u : Nat} {ended endedOther : List (Nat × ProbeReport)}
  (cancelled : test.token.cancelledAt = some c)
  (races : ∀ q, q ≠ protocol → world.RaceAlike c resolver other q
    (together (test.lanes policy resolver world [] test.host.netAddresses) start).calls
    (together (test.lanes policy resolver other [] test.host.netAddresses) start).calls)
include cancelled races

theorem ended_off (same : world.AgreesOff other protocol)
    (ran : (together (test.lanes policy resolver world [] test.host.netAddresses) start).ending =
      .returned t ended)
    (ranOther : (together (test.lanes policy resolver other [] test.host.netAddresses)
      start).ending = .returned u endedOther)
    {place : Nat} {address : NetAddress}
    (listed : test.host.netAddresses[place]? = some address)
    (foreign : address.protocol ≠ protocol) :
    ∃ e, ended[place]? = some e ∧ endedOther[place]? = some e := by
  obtain ⟨each, _⟩ := returned_together_iff.mp ran
  obtain ⟨eachOther, _⟩ := returned_together_iff.mp ranOther
  obtain ⟨seen, lanes, _⟩ := lane_at listed []
  have found := lanes policy resolver world test
  have foundOther := lanes policy resolver other test
  obtain ⟨⟨instant, report⟩, there, own⟩ := forall₂_at each found
  obtain ⟨f, thereOther, ownOther⟩ := forall₂_at eachOther foundOther
  have alike := lane_of_other_client cancelled same seen foreign <|
    (races _ foreign).mono (calls_of_one (List.mem_of_getElem? found) start)
      (calls_of_one (List.mem_of_getElem? foundOther) start)
  rw [alike, own] at ownOther
  cases ownOther
  exact ⟨_, there, thereOther⟩

theorem ended_same_to_others (same : world.AgreesOff other protocol)
    (old : protocol.generation ≠ .newest)
    (ran : (together (test.lanes policy resolver world [] test.host.netAddresses) start).ending =
      .returned t ended)
    (ranOther : (together (test.lanes policy resolver other [] test.host.netAddresses)
      start).ending = .returned u endedOther) :
    List.Forall₂ SameToOthers ended endedOther := by
  have size := (returned_together_iff.mp ran).1.length_eq
  have sizeOther := (returned_together_iff.mp ranOther).1.length_eq
  rw [lanes_length] at size sizeOther
  apply List.forall₂_iff_get.mpr
  refine ⟨size.symm.trans sizeOther, ?_⟩
  intro place inside insideOther
  have there := List.getElem?_eq_getElem inside
  have thereOther := List.getElem?_eq_getElem insideOther
  obtain ⟨address, listed, outcome⟩ := ended_at_place ran there
  obtain ⟨_, listedOther, outcomeOther⟩ := ended_at_place ranOther thereOther
  cases listed.symm.trans listedOther
  by_cases foreign : address.protocol = protocol
  · right
    have silent : ∀ {report : ProbeReport}, test.OwnReport place address report →
        newestRelease? report = none := by
      intro report own
      exact if_neg (by rw [own.about, foreign]; exact old)
    exact ⟨silent (outcome_is_own outcome), silent (outcome_is_own outcomeOther)⟩
  · left
    obtain ⟨e, atPlace, atPlaceOther⟩ :=
      ended_off cancelled races same ran ranOther listed foreign
    rw [there] at atPlace
    rw [thereOther] at atPlaceOther
    exact (Option.some.inj atPlaceOther).trans (Option.some.inj atPlace).symm

omit cancelled races

/-- The entry that an address with this report of its own can have: at most the release that an
    address of the protocol told is held against it. -/
inductive HeldAgainst (protocol : Protocol) (results : List ProbeReport) (own : ProbeReport) :
    ProbeReport → Prop
  | kept : HeldAgainst protocol results own own
  | disputed {first release : String} {place : Nat} {teller : ProbeReport} :
      newestRelease? own = some release → first ≠ release → results[place]? = some teller →
      teller.netAddress.protocol = protocol → newestRelease? teller = some first →
      HeldAgainst protocol results own (own.withError (disputeText first release))

def Rivals (a b : Protocol) : Prop := a = .siamux ∧ b = .quic ∨ a = .quic ∧ b = .siamux

theorem other_of_rivals {a b c : Protocol} (rivals : Rivals a b)
    (newest : c = .siamux ∨ c = .quic) (other : c ≠ a) : c = b := by
  rcases rivals with ⟨rfl, rfl⟩ | ⟨rfl, rfl⟩
  · exact newest.resolve_left other
  · exact newest.resolve_right other

theorem rivals_of_siblings {a b : Protocol} (siblings : a.generation = b.generation)
    (other : a ≠ b) : Rivals a b := by
  cases a <;> cases b <;> simp_all [Rivals, Protocol.generation]

theorem rivals_of_newest {a b : Protocol} (newest : a.generation = .newest)
    (newestOther : b.generation = .newest) (other : a ≠ b) : Rivals a b :=
  rivals_of_siblings (newest.trans newestOther.symm) other

theorem entry_of_rival
    (ran : (together (test.lanes policy resolver world [] test.host.netAddresses) start).ending =
      .returned t ended)
    {place : Nat} {e : Nat × ProbeReport} (there : ended[place]? = some e)
    (rivals : Rivals e.2.netAddress.protocol protocol) :
    HeldAgainst protocol (reconcile ended) e.2 (agreed (firstRelease ended) e.2) := by
  have unsettled := ended_is_unsettled ran
  have isFirst := first_release_is_first ended
  rw [agreed_eq_compared, reconcile_eq_map_agreed]
  cases own : newestRelease? e.2 with
  | none =>
    rw [compared_of_silent own]
    exact .kept
  | some release =>
    cases first : firstRelease ended with
    | none => exact .kept
    | some best =>
      obtain ⟨instant, told⟩ := best
      rw [first] at isFirst
      obtain ⟨teller, tellerPlace, member, carried, _⟩ := isFirst
      rw [List.mem_zipIdx_iff_getElem?] at member
      change HeldAgainst _ _ _ (compared (some told) e.2)
      by_cases same : told = release
      · rw [same, compared_of_same own]
        exact .kept
      · rw [compared_of_other own same]
        have carries : newestRelease? teller ≠ none := by simp [carried]
        have apart : teller.netAddress.protocol ≠ e.2.netAddress.protocol := by
          intro like
          cases unsettled.distinct _ _ _ _ member there carries (by simp [own]) like
          cases member.symm.trans there
          exact same (Option.some.inj (carried.symm.trans own))
        have entry : (ended.map fun e => agreed (some (instant, told)) e.2)[tellerPlace]? =
            some teller := by
          rw [List.getElem?_map, member, Option.map_some, agreed_eq_compared]
          exact congrArg some (compared_of_same carried)
        exact .disputed own same entry
          (other_of_rivals rivals (newest_release_protocol carries) apart) carried

include cancelled races

theorem entries_off (same : world.AgreesOff other protocol)
    (ran : (together (test.lanes policy resolver world [] test.host.netAddresses) start).ending =
      .returned t ended)
    (ranOther : (together (test.lanes policy resolver other [] test.host.netAddresses)
      start).ending = .returned u endedOther)
    {place : Nat} {address : NetAddress}
    (listed : test.host.netAddresses[place]? = some address)
    (foreign : address.protocol ≠ protocol) :
    ∃ own entry entryOther, Undisputed own ∧ (reconcile ended)[place]? = some entry ∧
      (reconcile endedOther)[place]? = some entryOther ∧
      (¬ Rivals address.protocol protocol → entryOther = entry) ∧
      (Rivals address.protocol protocol → HeldAgainst protocol (reconcile ended) own entry ∧
        HeldAgainst protocol (reconcile endedOther) own entryOther) := by
  obtain ⟨e, there, thereOther⟩ := ended_off cancelled races same ran ranOther listed foreign
  obtain ⟨_, again, outcome⟩ := ended_at_place ran there
  cases listed.symm.trans again
  have own := outcome_is_own outcome
  have entry : ∀ {ended : List (Nat × ProbeReport)}, ended[place]? = some e →
      (reconcile ended)[place]? = some (agreed (firstRelease ended) e.2) := by
    intro ended there
    rw [reconcile_eq_map_agreed, List.getElem?_map, there]
    rfl
  refine ⟨e.2, _, _, own.undisputed, entry there, entry thereOther, ?_, ?_⟩
  · intro apart
    by_cases old : protocol.generation = .newest
    · have silent : newestRelease? e.2 = none := by
        apply if_neg
        rw [own.about]
        intro newest
        exact apart (rivals_of_newest newest old foreign)
      rw [agreed_of_silent silent, agreed_of_silent silent]
    · rw [first_release_same (ended_same_to_others cancelled races same old ran ranOther)]
  · intro rivals
    rw [← own.about] at rivals
    exact ⟨entry_of_rival ran there rivals, entry_of_rival ranOther thereOther rivals⟩

end Runs
end HostTest

open HostTest

namespace Swapped

open Disagreeing

def world (siamux : Client) : World :=
  { names := .silent
    clients := (Clients.empty.register .quic
      { Client.answering (settings "v3.0.0") with
        scan := fun _ _ => .answer 9 (.ok (settings "v3.0.0")) }).register .siamux siamux
    consensus := fun _ => .silence
    releaseName := fun _ => .silence }

def crashing : Client :=
  { Client.answering (settings "v1.0.0") with dial := fun _ _ => .crash 1 "boom" }

theorem agrees_off_siamux (siamux other : Client) :
    (world siamux).AgreesOff (world other) .siamux := by
  refine ⟨rfl, ?_⟩
  intro q foreign
  simp [world, Clients.register, foreign]

def quic : ProbeReport := scanned ⟨"1.2.3.4:2", .quic⟩ 9 "v3.0.0"

def unharmed : HostReport :=
  { publicKey := host.publicKey
    version := "v3.0.0"
    results := [.rejected ⟨"1.2.3.4:1", .siamux⟩ (crashText "boom"), quic]
    rhp3 := none }

def disputed (release : String) : HostReport :=
  { publicKey := host.publicKey
    version := release
    results :=
      [scanned ⟨"1.2.3.4:1", .siamux⟩ 1 release, quic.withError (disputeText release "v3.0.0")]
    rhp3 := none }

theorem test_is_admitted (siamux : Client) :
    inspector.ask (world siamux) 0 host .never = (.ok test, next) := by
  unfold ask
  rw [snapshot_before_refresh inspector (world siamux) (by decide) (by decide)]
  rfl

end Swapped
end HostHealth.Inspector
