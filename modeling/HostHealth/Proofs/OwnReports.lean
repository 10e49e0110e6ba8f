import HostHealth.Proofs.Entries
import HostHealth.Proofs.FirstReleases

/- What a listed address, or the derived one, comes to by itself, before its release is held against
   that of anybody else. None of these reports says that the host reports several versions, and only
   the first address of a protocol has a release. -/
namespace HostHealth.Inspector

open Net Probe Timed

namespace HostTest

def IsDispute (error : String) : Prop := ∃ first own, error = disputeText first own

def Undisputed (report : ProbeReport) : Prop := ∀ error ∈ report.errors, ¬ IsDispute error

section Texts

theorem undisputed_of_clean {report : ProbeReport} (clean : report.errors = []) :
    Undisputed report := by
  intro error member
  rw [clean] at member
  cases member

def Opens (opening text : String) : Prop := opening.toList <+: text.toList

instance (opening text : String) : Decidable (Opens opening text) :=
  inferInstanceAs (Decidable (opening.toList <+: text.toList))

theorem opens_append {opening text : String} (h : Opens opening text) (rest : String) :
    Opens opening (text ++ rest) := by
  unfold Opens
  rw [String.toList_append]
  exact h.trans (List.prefix_append _ _)

theorem no_dispute_of_first_char {error : String} {c : Char} (first : firstChar error = some c)
    (other : c ≠ 'h') : ¬ IsDispute error := by
  rintro ⟨release, own, rfl⟩
  have h : firstChar (disputeText release own) = some 'h' :=
    first_char_append (first_char_append (first_char_append rfl _) _) _
  rw [h] at first
  cases first
  exact other rfl

theorem undisputed_of_first_char {report : ProbeReport} {error : String} {c : Char}
    (one : report.errors = [error]) (first : firstChar error = some c) (other : c ≠ 'h') :
    Undisputed report := by
  intro found member
  rw [one] at member
  cases List.mem_singleton.mp member
  exact no_dispute_of_first_char first other

theorem complaint_is_no_dispute {error : String} (h : Complaint error) : ¬ IsDispute error := by
  have oneOf := first_char_of_complaint h
  simp only [List.mem_cons, List.not_mem_nil, or_false] at oneOf
  rcases oneOf with first | first | first | first
  all_goals exact no_dispute_of_first_char first (by decide)

theorem finding_is_no_dispute {finding : Finding} (error : finding.isError = true) :
    ¬ IsDispute finding.message := by
  cases finding
  case offTip reported tip =>
    -- Both texts begin with the word "host"; only a dispute has a blank behind it.
    rintro ⟨first, own, same⟩
    have tip : Opens "host's" (Finding.offTip reported tip).message :=
      opens_append (opens_append (opens_append (by decide) _) _) _
    have dispute : Opens "host " (disputeText first own) :=
      opens_append (opens_append (opens_append (by decide) _) _) _
    rw [same] at tip
    rcases List.prefix_or_prefix_of_prefix tip dispute with longer | longer
    · exact absurd longer (by decide)
    · exact absurd longer (by decide)
  all_goals cases error

end Texts

theorem compared_adds_disputes (first : Option String) (report : ProbeReport) :
    ∃ added, compared first report = { report with errors := report.errors ++ added } ∧
      ∀ error ∈ added, IsDispute error := by
  have same : report = { report with errors := report.errors ++ [] } := by simp
  unfold compared
  split
  · split
    · exact ⟨[], same, fun _ member => by cases member⟩
    · refine ⟨[disputeText _ _], rfl, ?_⟩
      intro error member
      cases List.mem_singleton.mp member
      exact ⟨_, _, rfl⟩
  · exact ⟨[], same, fun _ member => by cases member⟩

theorem probe_is_undisputed {setup : Setup} {key : PublicKey} {address : NetAddress}
    {client : Client} {start t : Nat} {report : ProbeReport}
    (returned : (Probe.run setup key address client start).ending = .returned t report) :
    Undisputed report := by
  have staged := returned_probe_is_staged _ _ _ _ _ _ _ returned
  rcases probe_complains returned with scanned | ⟨error, one, complaint⟩
  · obtain ⟨settings, _, _, errors⟩ := staged.judged scanned
    intro error member
    rw [errors] at member
    obtain ⟨finding, found, rfl⟩ := List.mem_map.mp member
    exact finding_is_no_dispute (List.mem_filter.mp found).2
  · intro found member
    rw [one] at member
    cases List.mem_singleton.mp member
    exact complaint_is_no_dispute complaint

section Lanes

variable {policy : Policy} {resolver : Dns.Resolver} {world : World} {test : HostTest}
  {place : Nat} {address : NetAddress} {lane : Timed Call ProbeReport} {start t : Nat}
  {own : ProbeReport}

inductive Outcome (policy : Policy) (resolver : Dns.Resolver) (world : World) (test : HostTest)
    (start place : Nat) (address : NetAddress) (t : Nat) : ProbeReport → Prop
  | repeated : test.IsRepeated place address.protocol →
      Outcome policy resolver world test start place address t
        (.rejected address (repeatedText address.protocol))
  | past : test.IsPast address.protocol →
      Outcome policy resolver world test start place address t
        (.skipped address (pastText address.protocol))
  | unserved : world.clients.find? address.protocol = none →
      Outcome policy resolver world test start place address t
        (.rejected address (noClient address.protocol))
  | crashed {client : Client} (reason : String) :
      test.IsProbed world place address client →
      (test.probe policy resolver world address client start).ending = .crashed t reason →
      Outcome policy resolver world test start place address t
        (.rejected address (crashText reason))
  | probed {client : Client} {own : ProbeReport} :
      test.IsProbed world place address client →
      (test.probe policy resolver world address client start).ending = .returned t own →
      Outcome policy resolver world test start place address t own

theorem is_probed_of_fresh {client : Client}
    (listed : test.host.netAddresses[place]? = some address)
    (fresh : ¬ test.IsRepeated place address.protocol) (served : ¬ test.IsPast address.protocol)
    (registered : world.clients.find? address.protocol = some client) :
    test.IsProbed world place address client := by
  refine ⟨listed, ?_, ?_, registered⟩
  · intro j before other there same
    exact fresh ⟨j, before, other, there, same⟩
  · intro legacy
    by_contra beyond
    apply served
    rw [← past_iff_not_allowed, legacy]
    simpa using beyond

theorem lane_outcome (listed : test.host.netAddresses[place]? = some address)
    (there : (test.lanes policy resolver world [] test.host.netAddresses)[place]? = some lane)
    (returned : (lane start).ending = .returned t own) :
    Outcome policy resolver world test start place address t own := by
  obtain ⟨_, found, ofRepeated, ofFresh⟩ := lane_of_place policy resolver world listed
  cases there.symm.trans found
  by_cases repeated : test.IsRepeated place address.protocol
  · rw [ofRepeated repeated] at returned
    obtain ⟨_, rfl⟩ := returned_pure_iff.mp returned
    exact .repeated repeated
  obtain ⟨ofPast, ofServed⟩ := ofFresh repeated
  by_cases past : test.IsPast address.protocol
  · rw [ofPast past] at returned
    obtain ⟨_, rfl⟩ := returned_pure_iff.mp returned
    exact .past past
  obtain ⟨ofNone, ofSome⟩ := ofServed past
  cases registered : world.clients.find? address.protocol with
  | none =>
    rw [ofNone registered] at returned
    obtain ⟨_, rfl⟩ := returned_pure_iff.mp returned
    exact .unserved registered
  | some client =>
    have probed := is_probed_of_fresh listed repeated past registered
    rw [ofSome client registered, guardedProbe, ending_of_rescued] at returned
    cases ended : (test.probe policy resolver world address client start).ending with
    | returned u value =>
      rw [ended] at returned
      cases returned
      exact .probed probed ended
    | crashed u reason =>
      rw [ended] at returned
      cases returned
      exact .crashed reason probed ended
    | pending =>
      rw [ended] at returned
      cases returned

structure OwnReport (test : HostTest) (place : Nat) (address : NetAddress) (own : ProbeReport) :
    Prop where
  about : own.netAddress = address
  undisputed : Undisputed own
  fresh_of_release : newestRelease? own ≠ none → ¬ test.IsRepeated place address.protocol

theorem outcome_is_own
    (outcome : Outcome policy resolver world test start place address t own) :
    test.OwnReport place address own := by
  cases outcome with
  | repeated _ =>
    have text : firstChar (repeatedText address.protocol) = some 'd' := first_char_append rfl _
    exact ⟨rfl, undisputed_of_first_char rfl text (by decide),
      fun carries => absurd (rejected_has_no_release _ _) carries⟩
  | past _ =>
    exact ⟨rfl, undisputed_of_clean rfl, fun carries => absurd (untouched_is_silent rfl) carries⟩
  | unserved _ =>
    have text : firstChar (noClient address.protocol) = some 'n' := first_char_append rfl _
    exact ⟨rfl, undisputed_of_first_char rfl text (by decide),
      fun carries => absurd (rejected_has_no_release _ _) carries⟩
  | crashed reason _ _ =>
    have text : firstChar (crashText reason) = some 'p' := first_char_append rfl _
    exact ⟨rfl, undisputed_of_first_char rfl text (by decide),
      fun carries => absurd (rejected_has_no_release _ _) carries⟩
  | probed h returned =>
    refine ⟨(probe_keeps returned).1.about, probe_is_undisputed returned, ?_⟩
    rintro _ ⟨j, before, other, there, same⟩
    exact h.first j before other there same

theorem ended_at_place {lanesEnd : Nat} {ended : List (Nat × ProbeReport)}
    (ran : (together (test.lanes policy resolver world [] test.host.netAddresses) start).ending =
      .returned lanesEnd ended)
    {e : Nat × ProbeReport} (there : ended[place]? = some e) :
    ∃ address, test.host.netAddresses[place]? = some address ∧
      Outcome policy resolver world test start place address e.1 e.2 := by
  obtain ⟨each, _⟩ := returned_together_iff.mp ran
  obtain ⟨inside, _⟩ := List.getElem?_eq_some_iff.mp there
  rw [← each.length_eq, lanes_length] at inside
  have listed := List.getElem?_eq_getElem inside
  obtain ⟨lane, found, _⟩ := lane_of_place policy resolver world listed
  obtain ⟨_, same, returned⟩ := forall₂_at each found
  cases there.symm.trans same
  exact ⟨_, listed, lane_outcome listed found returned⟩

end Lanes

section Derived

variable {policy : Policy} {resolver : Dns.Resolver} {world : World} {test : HostTest}
  {results : List ProbeReport} {settings : SettingsV2} {start t : Nat} {entry : ProbeReport}

inductive DerivedOutcome (policy : Policy) (resolver : Dns.Resolver) (world : World)
    (test : HostTest) (settings : SettingsV2) (start t : Nat) : ProbeReport → Prop
  | unreadable (e : AddressError) : HostPort.read settings.netAddress = .error e →
      DerivedOutcome policy resolver world test settings start t
        (.rejected ⟨settings.netAddress, .rhp3⟩ (Probe.unreadable settings.netAddress e))
  | unserved (target : HostPort) : HostPort.read settings.netAddress = .ok target →
      world.clients.find? .rhp3 = none →
      DerivedOutcome policy resolver world test settings start t
        (.rejected ⟨HostPort.join target.host settings.siamuxPort, .rhp3⟩ (noClient .rhp3))
  | probed (target : HostPort) {client : Client} {own : ProbeReport} :
      HostPort.read settings.netAddress = .ok target →
      world.clients.find? .rhp3 = some client →
      (test.probe policy resolver world
        ⟨HostPort.join target.host settings.siamuxPort, .rhp3⟩ client start).ending =
          .returned t own →
      DerivedOutcome policy resolver world test settings start t own

theorem derived_outcome
    (returned : (test.derived policy resolver world settings start).ending = .returned t entry) :
    DerivedOutcome policy resolver world test settings start t entry := by
  unfold derived at returned
  cases readable : HostPort.read settings.netAddress with
  | error e =>
    rw [readable] at returned
    obtain ⟨_, rfl⟩ := returned_pure_iff.mp returned
    exact .unreadable e readable
  | ok target =>
    rw [readable] at returned
    dsimp only at returned
    cases registered : world.clients.find? .rhp3 with
    | none =>
      rw [registered] at returned
      obtain ⟨_, rfl⟩ := returned_pure_iff.mp returned
      exact .unserved target readable registered
    | some client =>
      rw [registered] at returned
      exact .probed target readable registered returned

theorem derived_entry_outcome
    (returned : (test.derivedIfDue policy resolver world results start).ending =
      .returned t (some entry)) :
    test.legacyAllowed = true ∧ (∀ a ∈ test.host.netAddresses, a.protocol ≠ .rhp3) ∧
      ∃ settings, announced? results = some settings ∧
        DerivedOutcome policy resolver world test settings start t entry := by
  unfold derivedIfDue at returned
  split at returned
  · rename_i due
    obtain ⟨served, unlisted⟩ := (derived_due_iff test).mp due
    cases found : announced? results with
    | none =>
      rw [found] at returned
      cases (returned_pure_iff.mp returned).2
    | some settings =>
      rw [found] at returned
      obtain ⟨u, value, probed, rest⟩ := returned_bind_iff.mp returned
      obtain ⟨rfl, same⟩ := returned_pure_iff.mp rest
      cases same
      exact ⟨served, unlisted, settings, rfl, derived_outcome probed⟩
  · cases (returned_pure_iff.mp returned).2

theorem derived_outcome_is_undisputed
    (outcome : DerivedOutcome policy resolver world test settings start t entry) :
    Undisputed entry := by
  cases outcome with
  | unreadable e _ =>
    have text : firstChar (Probe.unreadable settings.netAddress e) = some 'f' :=
      first_char_append (first_char_append (first_char_append rfl _) _) _
    exact undisputed_of_first_char rfl text (by decide)
  | unserved target _ _ =>
    have text : firstChar (noClient .rhp3) = some 'n' := first_char_append rfl _
    exact undisputed_of_first_char rfl text (by decide)
  | probed target _ _ returned => exact probe_is_undisputed returned

end Derived
end HostTest
end HostHealth.Inspector
