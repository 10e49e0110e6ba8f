import HostHealth.Proofs.OwnReports
import HostHealth.Proofs.TestDeadlines

/- A host that reports two versions. Only its siamux and its quic address can disagree, and
   whichever of them finishes later says so, once and at the end of its errors. Who that is depends
   on the order in which they finish, and nothing else does. -/
namespace HostHealth.Inspector

open Net Probe Timed

namespace HostTest

/-- What is known of reports of which none has been held against another one. -/
structure Unsettled (ended : List (Nat × ProbeReport)) : Prop where
  undisputed : ∀ e ∈ ended, Undisputed e.2
  newest : ∀ e ∈ ended, newestRelease? e.2 ≠ none →
    e.2.netAddress.protocol = .siamux ∨ e.2.netAddress.protocol = .quic
  distinct : ∀ (i j : Nat) (e f : Nat × ProbeReport), ended[i]? = some e → ended[j]? = some f →
    newestRelease? e.2 ≠ none → newestRelease? f.2 ≠ none →
    e.2.netAddress.protocol = f.2.netAddress.protocol → i = j

def Precedes (order : List Finish) (x y : Finish) : Prop := [x, y].Sublist order

/-- The first one keeps its entry, the other one's entry says that the releases differ, and nobody
    else's does. -/
structure LaterDisputed (results : List ProbeReport) (x y : Finish) (first own : String) :
    Prop where
  kept : results[x.2]? = some x.1.2
  disputed : results[y.2]? = some (y.1.2.withError (disputeText first own))
  once : Undisputed y.1.2
  others : ∀ (place : Nat) entry, results[place]? = some entry → place ≠ y.2 → Undisputed entry

structure Disputed (order : List Finish) (results : List ProbeReport) : Prop where
  differing : ∀ x ∈ order, ∀ y ∈ order, ∀ a b, newestRelease? x.1.2 = some a →
    newestRelease? y.1.2 = some b → a ≠ b →
    Precedes order x y ∧ LaterDisputed results x y a b ∨
    Precedes order y x ∧ LaterDisputed results y x b a
  agreeing : (∀ x ∈ order, ∀ y ∈ order, ∀ a b, newestRelease? x.1.2 = some a →
      newestRelease? y.1.2 = some b → a = b) →
    ∀ x ∈ order, results[x.2]? = some x.1.2 ∧ Undisputed x.1.2
  others : ∀ x ∈ order, x.1.2.netAddress.protocol ≠ .siamux →
    x.1.2.netAddress.protocol ≠ .quic → results[x.2]? = some x.1.2 ∧ Undisputed x.1.2

theorem newest_release_protocol {report : ProbeReport} (carries : newestRelease? report ≠ none) :
    report.netAddress.protocol = .siamux ∨ report.netAddress.protocol = .quic := by
  unfold newestRelease? at carries
  cases protocol : report.netAddress.protocol with
  | siamux => exact Or.inl rfl
  | quic => exact Or.inr rfl
  | rhp2 =>
    rw [protocol] at carries
    exact absurd (if_neg (by decide)) carries
  | rhp3 =>
    rw [protocol] at carries
    exact absurd (if_neg (by decide)) carries

theorem ended_is_unsettled {policy : Policy} {resolver : Dns.Resolver} {world : World}
    {test : HostTest} {start t : Nat} {ended : List (Nat × ProbeReport)}
    (ran : (together (test.lanes policy resolver world [] test.host.netAddresses) start).ending =
      .returned t ended) : Unsettled ended := by
  constructor
  · intro e member
    obtain ⟨place, there⟩ := List.getElem?_of_mem member
    obtain ⟨address, _, outcome⟩ := ended_at_place ran there
    exact (outcome_is_own outcome).undisputed
  · intro e _ carries
    exact newest_release_protocol carries
  · intro i j e f atI atJ carriesE carriesF same
    obtain ⟨address, listedI, outcomeI⟩ := ended_at_place ran atI
    obtain ⟨other, listedJ, outcomeJ⟩ := ended_at_place ran atJ
    have ownI := outcome_is_own outcomeI
    have ownJ := outcome_is_own outcomeJ
    rw [ownI.about, ownJ.about] at same
    rcases Nat.lt_trichotomy i j with before | together | after
    · exact absurd ⟨i, before, address, listedI, same⟩ (ownJ.fresh_of_release carriesF)
    · exact together
    · exact absurd ⟨j, after, other, listedJ, same.symm⟩ (ownI.fresh_of_release carriesE)

theorem either_precedes {order : List Finish} {x y : Finish} (hx : x ∈ order) (hy : y ∈ order)
    (distinct : x ≠ y) : Precedes order x y ∨ Precedes order y x := by
  obtain ⟨front, back, rfl⟩ := List.append_of_mem hx
  rcases List.mem_append.mp hy with early | late
  · right
    exact List.cons_sublist_iff.mpr ⟨front, x :: back, rfl, early,
      List.singleton_sublist.mpr List.mem_cons_self⟩
  · left
    rcases List.mem_cons.mp late with same | late
    · exact absurd same.symm distinct
    · exact List.cons_sublist_iff.mpr ⟨front ++ [x], back, by simp, by simp,
        List.singleton_sublist.mpr late⟩

section Orders

variable {ended : List (Nat × ProbeReport)} {order : List Finish} {results : List ProbeReport}
  {x y z : Finish} {a b : String}

theorem same_finish (perm : order.Perm ended.zipIdx) (hx : x ∈ order) (hy : y ∈ order)
    (same : x.2 = y.2) : x = y := by
  have atX := (mem_order_iff perm x).mp hx
  have atY := (mem_order_iff perm y).mp hy
  rw [same, atY] at atX
  exact Prod.ext (Option.some.inj atX).symm same

theorem one_of_two (h : Unsettled ended) (perm : order.Perm ended.zipIdx) (hx : x ∈ order)
    (hy : y ∈ order) (hz : z ∈ order) (carriesX : newestRelease? x.1.2 ≠ none)
    (carriesY : newestRelease? y.1.2 ≠ none) (carriesZ : newestRelease? z.1.2 ≠ none)
    (distinct : x ≠ y) : z = x ∨ z = y := by
  have atX := (mem_order_iff perm x).mp hx
  have atY := (mem_order_iff perm y).mp hy
  have atZ := (mem_order_iff perm z).mp hz
  have apart : x.1.2.netAddress.protocol ≠ y.1.2.netAddress.protocol := fun same =>
    distinct (same_finish perm hx hy (h.distinct _ _ _ _ atX atY carriesX carriesY same))
  by_cases likeX : z.1.2.netAddress.protocol = x.1.2.netAddress.protocol
  · exact Or.inl (same_finish perm hz hx (h.distinct _ _ _ _ atZ atX carriesZ carriesX likeX))
  · right
    apply same_finish perm hz hy
    apply h.distinct _ _ _ _ atZ atY carriesZ carriesY
    have newestX := h.newest _ (List.mem_of_getElem? atX) carriesX
    have newestY := h.newest _ (List.mem_of_getElem? atY) carriesY
    have newestZ := h.newest _ (List.mem_of_getElem? atZ) carriesZ
    rcases newestX with x | x <;> rcases newestY with y | y <;> rcases newestZ with z | z <;>
      simp_all

theorem first_of_precedes (h : Unsettled ended) (perm : order.Perm ended.zipIdx)
    (precedes : Precedes order x y) (distinct : x ≠ y) (ownX : newestRelease? x.1.2 = some a)
    (ownY : newestRelease? y.1.2 = some b) : firstOf order = some a := by
  have member := precedes.subset
  have hx : x ∈ order := member List.mem_cons_self
  have hy : y ∈ order := member (List.mem_cons_of_mem _ List.mem_cons_self)
  obtain ⟨front, back, split, early, late⟩ := List.cons_sublist_iff.mp precedes
  -- Somebody in front has a release, and of the two that have one it is not the later.
  cases first : firstOf front with
  | none =>
    have silent := List.findSome?_eq_none_iff.mp first x early
    rw [silent] at ownX
    cases ownX
  | some release =>
    obtain ⟨z, inFront, carried⟩ := List.exists_of_findSome?_eq_some first
    have hz : z ∈ order := by
      rw [split]
      exact List.mem_append_left _ inFront
    have nodup : order.Nodup := perm.nodup_iff.mpr (List.nodup_zipIdx_map_snd ended).of_map
    have whole : firstOf order = some release := by
      unfold firstOf at first ⊢
      rw [split, List.findSome?_append, first]
      rfl
    rcases one_of_two h perm hx hy hz (by simp [ownX]) (by simp [ownY]) (by simp [carried])
      distinct with rfl | rfl
    · rw [whole, ← carried, ownX]
    · rw [split] at nodup
      exact absurd rfl
        ((List.nodup_append.mp nodup).2.2 z inFront z (List.singleton_sublist.mp late))

theorem entry_of_finish (perm : order.Perm ended.zipIdx) (hx : x ∈ order) :
    (ended.map fun e => compared (firstOf order) e.2)[x.2]? =
      some (compared (firstOf order) x.1.2) := by
  rw [List.getElem?_map, (mem_order_iff perm x).mp hx]
  rfl

theorem later_disputed (h : Unsettled ended) (perm : order.Perm ended.zipIdx)
    (precedes : Precedes order x y) (distinct : x ≠ y) (ownX : newestRelease? x.1.2 = some a)
    (ownY : newestRelease? y.1.2 = some b) (differ : a ≠ b) :
    LaterDisputed (ended.map fun e => compared (firstOf order) e.2) x y a b := by
  have hx : x ∈ order := precedes.subset List.mem_cons_self
  have hy : y ∈ order := precedes.subset (List.mem_cons_of_mem _ List.mem_cons_self)
  have first := first_of_precedes h perm precedes distinct ownX ownY
  refine ⟨?_, ?_, ?_, ?_⟩
  · rw [entry_of_finish perm hx, first, compared_of_same ownX]
  · rw [entry_of_finish perm hy, first, compared_of_other ownY differ]
  · exact h.undisputed _ (List.mem_of_getElem? ((mem_order_iff perm y).mp hy))
  · intro place entry there unlike
    rw [List.getElem?_map, Option.map_eq_some_iff] at there
    obtain ⟨e, found, rfl⟩ := there
    have clean := h.undisputed e (List.mem_of_getElem? found)
    have hz : (e, place) ∈ order := (mem_order_iff perm (e, place)).mpr found
    cases own : newestRelease? e.2 with
    | none =>
      rw [compared_of_silent own]
      exact clean
    | some release =>
      rcases one_of_two h perm hx hy hz (by simp [ownX]) (by simp [ownY]) (by simp [own]) distinct
        with same | same
      · have ownE : newestRelease? e.2 = some a := by rw [← ownX, ← same]
        rw [first, compared_of_same ownE]
        exact clean
      · exact absurd (congrArg Prod.snd same) unlike

theorem settled_is_disputed (h : Unsettled ended) (perm : order.Perm ended.zipIdx)
    (settled : SettledAs order results) : Disputed order results := by
  rw [settled_as_iff perm] at settled
  rw [settled]
  have clean : ∀ x ∈ order, Undisputed x.1.2 := fun x hx =>
    h.undisputed _ (List.mem_of_getElem? ((mem_order_iff perm x).mp hx))
  constructor
  · intro x hx y hy a b ownX ownY differ
    have distinct : x ≠ y := by
      rintro rfl
      rw [ownX] at ownY
      exact differ (Option.some.inj ownY)
    rcases either_precedes hx hy distinct with precedes | precedes
    · exact Or.inl ⟨precedes, later_disputed h perm precedes distinct ownX ownY differ⟩
    · exact Or.inr
        ⟨precedes, later_disputed h perm precedes distinct.symm ownY ownX differ.symm⟩
  · intro agree x hx
    refine ⟨?_, clean x hx⟩
    rw [entry_of_finish perm hx]
    cases own : newestRelease? x.1.2 with
    | none => rw [compared_of_silent own]
    | some release =>
      cases first : firstOf order with
      | none =>
        have silent := List.findSome?_eq_none_iff.mp first x hx
        rw [silent] at own
        cases own
      | some other =>
        obtain ⟨z, hz, carried⟩ := List.exists_of_findSome?_eq_some first
        rw [agree z hz x hx other release carried own, compared_of_same own]
  · intro x hx notSiamux notQuic
    refine ⟨?_, clean x hx⟩
    have silent : newestRelease? x.1.2 = none := by
      by_contra carries
      rcases newest_release_protocol carries with siamux | quic
      · exact notSiamux siamux
      · exact notQuic quic
    rw [entry_of_finish perm hx, compared_of_silent silent]

def AnyError (ended : List (Nat × ProbeReport)) : Prop :=
  (∃ e ∈ ended, e.2.hasErrors = true) ∨
    ∃ e ∈ ended, ∃ f ∈ ended, ∃ a b, newestRelease? e.2 = some a ∧ newestRelease? f.2 = some b ∧
      a ≠ b

theorem with_error_has_errors (report : ProbeReport) (error : String) :
    (report.withError error).hasErrors = true := by
  simp [ProbeReport.hasErrors, ProbeReport.withError]

theorem compared_has_errors {first : Option String} {report : ProbeReport}
    (h : report.hasErrors = true) : (compared first report).hasErrors = true := by
  unfold compared
  split
  · split
    · exact h
    · exact with_error_has_errors _ _
  · exact h

theorem settled_has_errors_iff (perm : order.Perm ended.zipIdx)
    (settled : SettledAs order results) :
    results.any ProbeReport.hasErrors = true ↔ AnyError ended := by
  rw [(settled_as_iff perm).mp settled, List.any_map, List.any_eq_true]
  have finished : ∀ e ∈ ended, ∃ place, (e, place) ∈ order := by
    intro e member
    obtain ⟨place, there⟩ := List.getElem?_of_mem member
    exact ⟨place, (mem_order_iff perm (e, place)).mpr there⟩
  constructor
  · rintro ⟨e, member, erroneous⟩
    by_cases own : e.2.hasErrors = true
    · exact Or.inl ⟨e, member, own⟩
    · right
      have changed : compared (firstOf order) e.2 ≠ e.2 := by
        intro same
        change (compared (firstOf order) e.2).hasErrors = true at erroneous
        rw [same] at erroneous
        exact own erroneous
      cases first : firstOf order with
      | none =>
        rw [first] at changed
        exact absurd rfl changed
      | some a =>
        obtain ⟨z, hz, carried⟩ := List.exists_of_findSome?_eq_some first
        have there := List.mem_of_getElem? ((mem_order_iff perm z).mp hz)
        cases release : newestRelease? e.2 with
        | none => exact absurd (compared_of_silent release _) changed
        | some b =>
          refine ⟨z.1, there, e, member, a, b, carried, release, ?_⟩
          rintro rfl
          rw [first] at changed
          exact changed (compared_of_same release)
  · rintro (⟨e, member, erroneous⟩ | ⟨e, hE, f, hF, a, b, ownE, ownF, differ⟩)
    · exact ⟨e, member, compared_has_errors erroneous⟩
    · obtain ⟨place, there⟩ := finished e hE
      cases first : firstOf order with
      | none =>
        have silent := List.findSome?_eq_none_iff.mp first _ there
        rw [silent] at ownE
        cases ownE
      | some release =>
        -- The first release cannot be the one of both.
        by_cases same : release = a
        · refine ⟨f, hF, ?_⟩
          have other : release ≠ b := by
            rw [same]
            exact differ
          change (compared (some release) f.2).hasErrors = true
          rw [compared_of_other ownF other]
          exact with_error_has_errors _ _
        · refine ⟨e, hE, ?_⟩
          change (compared (some release) e.2).hasErrors = true
          rw [compared_of_other ownE same]
          exact with_error_has_errors _ _

theorem compared_keeps_rest (first : Option String) (report : ProbeReport) :
    (compared first report).netAddress = report.netAddress ∧
      (compared first report).settings = report.settings := by
  unfold compared
  split
  · split
    · exact ⟨rfl, rfl⟩
    · exact ⟨rfl, rfl⟩
  · exact ⟨rfl, rfl⟩

theorem announced_of_compared (first : Option String) (ended : List (Nat × ProbeReport)) :
    announced? (ended.map fun e => compared first e.2) = announced? (ended.map Prod.snd) := by
  unfold announced?
  rw [List.findSome?_map, List.findSome?_map]
  congr 1
  funext e
  obtain ⟨address, settings⟩ := compared_keeps_rest first e.2
  simp only [Function.comp_apply, address, settings]

theorem derived_of_settled (perm : order.Perm ended.zipIdx) (settled : SettledAs order results)
    (policy : Policy) (resolver : Dns.Resolver) (world : World) (test : HostTest) :
    test.derivedIfDue policy resolver world results =
      test.derivedIfDue policy resolver world (reconcile ended) := by
  have inTurnSettled := (settled_as_iff (in_turn_perm ended)).mp (reconciled_in_turn ended)
  unfold derivedIfDue
  rw [(settled_as_iff perm).mp settled, inTurnSettled, announced_of_compared,
    announced_of_compared]

end Orders
end HostTest

open HostTest

/-- Disputes among the entries of an admitted test that returns, for all that its clients may do,
    and whenever it is cancelled or the inspector is closed. Its results are settled in the order
    in which its lanes end. In any order the later one of two that differ says so, and all else
    stays as it is: the derived probe, and whether there is an error at all. -/
theorem later_release_is_disputed (self next : Inspector) (known world : World) (now : Nat)
    (host : Host) (caller : Token) (test : HostTest) (closing : Option Nat) (t : Nat)
    (report : HostReport)
    (admitted : self.ask known now host caller = (.ok test, next))
    (returned : ({ next with closedAt := closing }.course world test now).ending =
      .returned t report) :
    let guarded := { test with token := test.token.meet ⟨closing⟩ }
    let lanes := guarded.lanes next.policy next.resolver world [] host.netAddresses
    let derived := guarded.derivedIfDue next.policy next.resolver world
    ∃ u ended, (together lanes now).ending = .returned u ended ∧ Unsettled ended ∧
      (∀ place address client, guarded.IsProbed world place address client →
        ∃ e, ended[place]? = some e ∧
          (guarded.guardedProbe next.policy next.resolver world address client now).ending =
            .returned e.1 e.2) ∧
      (inTurn ended).Perm ended.zipIdx ∧
      (inTurn ended).Pairwise (fun a b => isBefore a b = true) ∧
      SettledAs (inTurn ended) report.results ∧
      (∀ entry, report.rhp3 = some entry → Undisputed entry) ∧
      (report.hasErrors = true ↔
        AnyError ended ∨ ∃ entry, report.rhp3 = some entry ∧ entry.hasErrors = true) ∧
      ∀ order, order.Perm ended.zipIdx → ∃ results, SettledAs order results ∧
        Disputed order results ∧ derived results = derived report.results ∧
        { report with results := results }.hasErrors = report.hasErrors := by
  intro guarded lanes derived
  obtain ⟨rfl, _⟩ := test_of_admission admitted
  have ran : (guarded.run next.policy next.resolver world now).ending = .returned t report :=
    returned
  obtain ⟨u, ended, joined, after⟩ := returned_bind_iff.mp ran
  obtain ⟨_, rhp3, probed, rest⟩ := returned_bind_iff.mp after
  obtain ⟨_, rfl⟩ := returned_pure_iff.mp rest
  have unsettled := ended_is_unsettled joined
  have inOrder := reconciled_in_turn ended
  have errors_of_settled : ∀ {order : List Finish} {results : List ProbeReport} (version : String),
      order.Perm ended.zipIdx → SettledAs order results →
      (HostReport.hasErrors ⟨guarded.host.publicKey, version, results, rhp3⟩ = true ↔
        AnyError ended ∨ ∃ entry, rhp3 = some entry ∧ entry.hasErrors = true) := by
    intro order results version perm settled
    unfold HostReport.hasErrors HostReport.all
    rw [List.any_append, Bool.or_eq_true, settled_has_errors_iff perm settled]
    simp
  refine ⟨u, ended, joined, unsettled, ?_, in_turn_perm ended, in_turn_ordered ended, inOrder, ?_,
    errors_of_settled _ (in_turn_perm ended) inOrder, ?_⟩
  · intro place address client h
    obtain ⟨e, there, own⟩ := forall₂_at (returned_together_iff.mp joined).1
      (lane_of_probed next.policy next.resolver world guarded h)
    exact ⟨e, there, own⟩
  · rintro entry same
    cases same
    obtain ⟨_, _, settings, _, outcome⟩ := derived_entry_outcome probed
    exact derived_outcome_is_undisputed outcome
  · intro order perm
    have settled := (settled_as_iff perm).mpr rfl
    refine ⟨_, settled, settled_is_disputed unsettled perm settled,
      derived_of_settled perm settled _ _ _ _, Bool.eq_iff_iff.mpr ?_⟩
    rw [errors_of_settled _ perm settled, errors_of_settled _ (in_turn_perm ended) inOrder]

namespace Disagreeing

def known : Snapshot := ⟨⟨⟨2, ""⟩, ⟨1, 1⟩⟩, .zero⟩

def inspector : Inspector := opened .standard .standard 0 known

def host : Host := ⟨.filled 1, [⟨"1.2.3.4:1", .siamux⟩, ⟨"1.2.3.4:2", .quic⟩]⟩

def settings (release : String) : Settings := .v4
  { acceptingContracts := true
    maxCollateral := ⟨1000, by decide⟩
    maxContractDuration := 4320
    release := release
    netAddress := none
    prices := { storagePrice := ⟨10, by decide⟩, collateral := ⟨25, by decide⟩, tipHeight := 2 } }

def world : World :=
  { names := .silent
    clients := (Clients.empty.register .quic (.answering (settings "v2.0.0"))).register .siamux
      { Client.answering (settings "v1.0.0") with
        scan := fun _ _ => .answer 9 (.ok (settings "v1.0.0")) }
    consensus := fun _ => .silence
    releaseName := fun _ => .silence }

def test : HostTest := ⟨host, known, .cancelledFrom Policy.standard.testTimeout⟩

def next : Inspector :=
  { inspector with cooldown := ⟨[(host.publicKey, Policy.standard.cooldown)]⟩ }

def scanned (address : NetAddress) (scanTime : Nat) (release : String) : ProbeReport :=
  { ProbeReport.untouched address with
    resolvedAddresses := [.v4 ⟨1, 2, 3, 4⟩]
    connected := true
    dialTime := 1
    handshake := true
    handshakeTime := 1
    scanned := true
    scanTime := scanTime
    settings := some (settings release) }

def slow : ProbeReport := scanned ⟨"1.2.3.4:1", .siamux⟩ 9 "v1.0.0"

def fast : ProbeReport := scanned ⟨"1.2.3.4:2", .quic⟩ 1 "v2.0.0"

def report : HostReport :=
  { publicKey := host.publicKey
    version := "v1.0.0"
    results := [slow.withError (disputeText "v2.0.0" "v1.0.0"), fast]
    rhp3 := none }

theorem dispute_of_slow_siamux :
    inspector.ask world 0 host .never = (.ok test, next) ∧
      (next.course world test 0).ending = .returned 11 report ∧
      ∃ results, SettledAs [((11, slow), 0), ((3, fast), 1)] results ∧
        results[1]? = some (fast.withError (disputeText "v1.0.0" "v2.0.0")) ∧
        { report with results := results }.hasErrors = report.hasErrors := by
  have admitted : inspector.ask world 0 host .never = (.ok test, next) := by
    unfold ask
    rw [snapshot_before_refresh inspector world (by decide) (by decide)]
    rfl
  have returned : (next.course world test 0).ending = .returned 11 report := by rfl
  have joined :
      (together (test.lanes next.policy next.resolver world [] host.netAddresses) 0).ending =
        .returned 11 [(11, slow), (3, fast)] := by rfl
  obtain ⟨u, ended, ran, _, _, _, _, _, _, _, every⟩ :=
    later_release_is_disputed inspector next world world 0 host .never test none 11 report admitted
      returned
  cases ran.symm.trans joined
  obtain ⟨results, settled, _, _, same⟩ :=
    every [((11, slow), 0), ((3, fast), 1)] (List.Perm.refl _)
  exact ⟨admitted, returned, results, settled,
    (settled 1 _).mpr (List.mem_cons_of_mem _ (List.mem_singleton.mpr rfl)), same⟩

end Disagreeing
end HostHealth.Inspector
