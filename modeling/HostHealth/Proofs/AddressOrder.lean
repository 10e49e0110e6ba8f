import HostHealth.Proofs.FaultIsolation
import HostHealth.Proofs.DerivedProbes

/- The order in which a host lists its addresses. Only the version looks at who is listed first, and
   only if the two addresses of the newest generation tell different releases. -/
namespace HostHealth.Inspector

open Net Probe Timed

section Lists

variable {α β κ : Type} {order : List Nat}

def rearranged (order : List Nat) (items : List α) : List α :=
  order.filterMap fun place => items[place]?

theorem rearranged_map (order : List Nat) (f : α → β) (items : List α) :
    rearranged order (items.map f) = (rearranged order items).map f := by
  unfold rearranged
  rw [List.map_filterMap]
  congr 1
  funext place
  rw [List.getElem?_map]

theorem rearranged_in_place (items : List α) :
    rearranged (List.range items.length) items = items := by
  induction items with
  | nil => rfl
  | cons item rest ih =>
    unfold rearranged at ih ⊢
    rw [List.length_cons, List.range_succ_eq_map, List.filterMap_cons, List.filterMap_map]
    exact congrArg (item :: ·) ih

theorem rearranged_perm {items : List α} (all : order.Perm (List.range items.length)) :
    (rearranged order items).Perm items := by
  have moved := all.filterMap fun place => items[place]?
  rwa [← rearranged, ← rearranged, rearranged_in_place] at moved

theorem rearranged_forall₂ {related : α → β → Prop} {left : List α} {right : List β}
    (each : List.Forall₂ related left right) (order : List Nat) :
    List.Forall₂ related (rearranged order left) (rearranged order right) := by
  have size := each.length_eq
  unfold rearranged
  induction order with
  | nil => exact .nil
  | cons place rest ih =>
    cases here : left[place]? with
    | none =>
      have beyond : right[place]? = none := by
        rw [List.getElem?_eq_none_iff] at here ⊢
        omega
      rw [List.filterMap_cons_none here, List.filterMap_cons_none beyond]
      exact ih
    | some item =>
      obtain ⟨other, there, alike⟩ := HostTest.forall₂_at each here
      rw [List.filterMap_cons_some here, List.filterMap_cons_some there]
      exact .cons alike ih

theorem find_of_perm {find : α → Option β} {items others : List α} (perm : others.Perm items)
    (one : ∀ x ∈ items, ∀ y ∈ items, ∀ a b, find x = some a → find y = some b → a = b) :
    others.findSome? find = items.findSome? find := by
  cases found : items.findSome? find with
  | none =>
    rw [List.findSome?_eq_none_iff] at found ⊢
    exact fun x member => found x (perm.mem_iff.mp member)
  | some a =>
    obtain ⟨x, here, own⟩ := List.exists_of_findSome?_eq_some found
    cases foundOther : others.findSome? find with
    | none =>
      have silent := List.findSome?_eq_none_iff.mp foundOther x (perm.mem_iff.mpr here)
      cases silent.symm.trans own
    | some b =>
      obtain ⟨y, there, own'⟩ := List.exists_of_findSome?_eq_some foundOther
      rw [one y (perm.mem_iff.mp there) x here b a own' own]

theorem together_rearranged {activities : List (Timed κ α)} {values : List (Nat × α)}
    {start t : Nat} (all : order.Perm (List.range activities.length))
    (ran : (together activities start).ending = .returned t values) :
    (together (rearranged order activities) start).ending =
        .returned t (rearranged order values) ∧
      (together (rearranged order activities) start).calls.Perm
        (together activities start).calls := by
  obtain ⟨each, last⟩ := returned_together_iff.mp ran
  constructor
  · refine returned_together_iff.mpr ⟨rearranged_forall₂ each order, ?_⟩
    rw [each.length_eq] at all
    -- They are over when the last one is, which is a maximum over all of them.
    have later : LeftCommutative fun (v : Nat × α) (latest : Nat) => max v.1 latest :=
      ⟨fun v w latest => Nat.max_left_comm v.1 w.1 latest⟩
    rw [last]
    exact ((rearranged_perm all).foldr_eq start).symm
  · rw [calls_of_together, calls_of_together]
    exact (rearranged_perm all).flatMap_right _

end Lists

namespace HostTest

section Releases

variable {ended others : List (Nat × ProbeReport)}

theorem newest_of_release {report : ProbeReport} (carries : newestRelease? report ≠ none) :
    report.netAddress.protocol.generation = .newest := by
  by_contra old
  exact carries (if_neg old)

theorem first_release_is_earliest {t : Nat} {release : String}
    (first : firstRelease ended = some (t, release)) :
    ∃ own, (t, own) ∈ ended ∧ newestRelease? own = some release ∧
      ∀ e ∈ ended, newestRelease? e.2 ≠ none → t ≤ e.1 := by
  have known := first_release_is_first ended
  rw [first] at known
  obtain ⟨own, place, there, carried, least⟩ := known
  refine ⟨own, List.mem_of_getElem? (List.mem_zipIdx_iff_getElem?.mp there), carried, ?_⟩
  intro e member carries
  obtain ⟨other, found⟩ := List.getElem?_of_mem member
  have before := least (e, other) (List.mem_zipIdx_iff_getElem?.mpr found) carries
  rcases is_before_iff.mp before with sooner | ⟨same, _⟩
  · exact Nat.le_of_lt sooner
  · exact Nat.le_of_eq same

theorem no_first_release (none : firstRelease ended = none) :
    ∀ e ∈ ended, newestRelease? e.2 = .none := by
  have known := first_release_is_first ended
  rw [none] at known
  intro e member
  obtain ⟨place, found⟩ := List.getElem?_of_mem member
  exact known (e, place) (List.mem_zipIdx_iff_getElem?.mpr found)

theorem first_release_of_perm (perm : others.Perm ended)
    (apart : ∀ e ∈ ended, ∀ f ∈ ended, ∀ a b, newestRelease? e.2 = some a →
      newestRelease? f.2 = some b → e.1 = f.1 → a = b) :
    firstRelease others = firstRelease ended := by
  cases first : firstRelease ended with
  | none =>
    cases other : firstRelease others with
    | none => rfl
    | some best =>
      obtain ⟨own, member, carried, _⟩ := first_release_is_earliest other
      have silent := no_first_release first _ (perm.mem_iff.mp member)
      cases silent.symm.trans carried
  | some best =>
    obtain ⟨own, member, carried, least⟩ := first_release_is_earliest first
    cases other : firstRelease others with
    | none =>
      have silent := no_first_release other _ (perm.mem_iff.mpr member)
      cases silent.symm.trans carried
    | some best' =>
      obtain ⟨own', member', carried', least'⟩ := first_release_is_earliest other
      -- Neither of the two is earlier than the other, for both lists have both.
      have before := least _ (perm.mem_iff.mp member') (by simp [carried'])
      have after := least' _ (perm.mem_iff.mpr member) (by simp [carried])
      have same : best'.1 = best.1 := Nat.le_antisymm after before
      have release := apart _ (perm.mem_iff.mp member') _ member _ _ carried' carried same
      exact congrArg some (Prod.ext same release)

end Releases

section Versions

variable {results others : List ProbeReport} {rhp3 : Option ProbeReport}

def releaseOf (generation : Generation) (results : List ProbeReport) : Option String :=
  (results.filter fun r => r.netAddress.protocol.generation = generation).findSome?
    ProbeReport.release

def Agreeing (results : List ProbeReport) : Prop :=
  ∀ e ∈ results, ∀ f ∈ results, ∀ a b, e.netAddress.protocol = .siamux →
    f.netAddress.protocol = .quic → e.release = some a → f.release = some b → a = b

theorem infer_version_eq (results : List ProbeReport) (rhp3 : Option ProbeReport) :
    inferVersion results rhp3 = (Generation.newestFirst.findSome? fun generation =>
      (releaseOf generation results).or (releaseOf generation rhp3.toList)).getD "" := by
  unfold inferVersion releaseOf
  simp only [List.filter_append, List.findSome?_append]

theorem newest_of_rivals {a b : Protocol} (rivals : Rivals a b) :
    a.generation = .newest ∧ b.generation = .newest := by
  rcases rivals with ⟨rfl, rfl⟩ | ⟨rfl, rfl⟩
  · exact ⟨rfl, rfl⟩
  · exact ⟨rfl, rfl⟩

theorem only_two_are_newest {a b c : Protocol} (first : a.generation = .newest)
    (second : b.generation = .newest) (third : c.generation = .newest) :
    a = b ∨ c = a ∨ c = b := by
  cases a <;> cases b <;> cases c <;> simp_all [Protocol.generation, Generation.newest]

variable (distinct : (results.map fun r => r.netAddress.protocol).Nodup)
include distinct

theorem release_of_perm (agreeing : Agreeing results) (perm : others.Perm results)
    (generation : Generation) : releaseOf generation others = releaseOf generation results := by
  apply find_of_perm (perm.filter _)
  intro x here y there a b own own'
  obtain ⟨inX, sameX⟩ := List.mem_filter.mp here
  obtain ⟨inY, sameY⟩ := List.mem_filter.mp there
  by_cases same : x.netAddress.protocol = y.netAddress.protocol
  · cases List.inj_on_of_nodup_map distinct inX inY same
    exact Option.some.inj (own.symm.trans own')
  · have siblings := (of_decide_eq_true sameX).trans (of_decide_eq_true sameY).symm
    rcases rivals_of_siblings siblings same with ⟨siamux, quic⟩ | ⟨quic, siamux⟩
    · exact agreeing x inX y inY a b siamux quic own own'
    · exact (agreeing y inY x inX b a siamux quic own' own).symm

theorem version_of_perm (agreeing : Agreeing results) (perm : others.Perm results) :
    inferVersion others rhp3 = inferVersion results rhp3 := by
  simp only [infer_version_eq, release_of_perm distinct agreeing perm]

theorem place_of_protocol {i j : Nat} {e f : ProbeReport} (here : results[i]? = some e)
    (there : results[j]? = some f) (same : e.netAddress.protocol = f.netAddress.protocol) :
    i = j := by
  obtain ⟨inside, _⟩ := List.getElem?_eq_some_iff.mp here
  refine (List.getElem?_inj (by rwa [List.length_map]) distinct).mp ?_
  rw [List.getElem?_map, List.getElem?_map, here, there, Option.map_some, Option.map_some, same]

theorem version_of_first {i j : Nat} {e f : ProbeReport} {release : String} (before : i < j)
    (here : results[i]? = some e) (there : results[j]? = some f)
    (rivals : Rivals e.netAddress.protocol f.netAddress.protocol)
    (own : e.release = some release) : inferVersion results rhp3 = release := by
  obtain ⟨newest, newestOther⟩ := newest_of_rivals rivals
  -- The newest generation has just these two protocols, and each of them is listed once.
  have nobody : ∀ x ∈ results.take i, ¬ x.netAddress.protocol.generation = .newest := by
    intro x early newestX
    obtain ⟨k, found⟩ := List.getElem?_of_mem early
    rw [List.getElem?_take] at found
    split at found
    · rename_i sooner
      rcases only_two_are_newest newest newestOther newestX with same | same | same
      · have := place_of_protocol distinct here there same
        omega
      · have := place_of_protocol distinct found here same
        omega
      · have := place_of_protocol distinct found there same
        omega
    · cases found
  have found : releaseOf .newest results = some release := by
    obtain ⟨inside, rfl⟩ := List.getElem?_eq_some_iff.mp here
    unfold releaseOf
    rw [← List.take_append_drop i results, List.filter_append,
      List.filter_eq_nil_iff.mpr fun x early newestX => nobody x early (of_decide_eq_true newestX),
      List.nil_append, List.drop_eq_getElem_cons inside,
      List.filter_cons, if_pos (decide_eq_true newest), List.findSome?_cons, own]
  have first : Generation.newestFirst = .newest :: [.v3, .v2] := rfl
  rw [infer_version_eq, first, List.findSome?_cons, found]
  rfl

end Versions

def reordered (order : List Nat) (host : Host) : Host :=
  { host with netAddresses := rearranged order host.netAddresses }

def DistinctProtocols (host : Host) : Prop := (host.netAddresses.map NetAddress.protocol).Nodup

section Reordered

variable (policy : Policy) (resolver : Dns.Resolver) (world : World) (test : HostTest)

def reorderedTest (order : List Nat) : HostTest := { test with host := reordered order test.host }

/-- The siamux and the quic probe do not tell different releases at one instant. They do not if they
    do not return at one instant. -/
def ToldApart (start : Nat) : Prop :=
  ∀ i j address rival client clientOther t own other release releaseOther,
    test.IsProbed world i address client → test.IsProbed world j rival clientOther →
    Rivals address.protocol rival.protocol →
    (test.probe policy resolver world address client start).ending = .returned t own →
    (test.probe policy resolver world rival clientOther start).ending = .returned t other →
    own.release = some release → other.release = some releaseOther → release = releaseOther

theorem lane_of_fresh {seen : List Protocol} {address : NetAddress}
    (fresh : address.protocol ∉ seen) :
    test.lane policy resolver world seen address = test.lane policy resolver world [] address := by
  unfold lane
  simp only [if_neg fresh, if_neg List.not_mem_nil]

theorem lanes_of_distinct {addresses : List NetAddress} {seen : List Protocol}
    (distinct : (addresses.map NetAddress.protocol).Nodup)
    (fresh : ∀ address ∈ addresses, address.protocol ∉ seen) :
    test.lanes policy resolver world seen addresses =
      addresses.map (test.lane policy resolver world []) := by
  -- `seen` grows along the list, and never has a protocol of those that are still to come.
  induction addresses generalizing seen with
  | nil => rfl
  | cons address rest ih =>
    obtain ⟨alone, distinctRest⟩ := List.nodup_cons.mp distinct
    rw [lanes, List.map_cons, lane_of_fresh policy resolver world test (fresh _ List.mem_cons_self)]
    congr 1
    apply ih distinctRest
    intro other later repeated
    rcases List.mem_cons.mp repeated with same | old
    · exact alone (List.mem_map.mpr ⟨other, later, same⟩)
    · exact fresh other (List.mem_cons_of_mem _ later) old

variable {policy resolver world test} {order : List Nat}

theorem lanes_of_reordered (distinct : DistinctProtocols test.host)
    (all : order.Perm (List.range test.host.netAddresses.length)) :
    (test.reorderedTest order).lanes policy resolver world []
        (reordered order test.host).netAddresses =
      rearranged order (test.lanes policy resolver world [] test.host.netAddresses) := by
  have still : ((rearranged order test.host.netAddresses).map NetAddress.protocol).Nodup :=
    ((rearranged_perm all).map _).nodup_iff.mpr distinct
  rw [lanes_of_distinct _ _ _ _ distinct fun _ _ => List.not_mem_nil]
  change (test.reorderedTest order).lanes policy resolver world []
    (rearranged order test.host.netAddresses) = _
  rw [lanes_of_distinct _ _ _ _ still fun _ _ => List.not_mem_nil, rearranged_map]
  rfl

section Ended

variable {start t : Nat} {ended : List (Nat × ProbeReport)}
  (ran : (together (test.lanes policy resolver world [] test.host.netAddresses) start).ending =
    .returned t ended)
include ran

theorem results_are_about_addresses :
    (reconcile ended).map ProbeReport.netAddress = test.host.netAddresses := by
  have size : (reconcile ended).length = test.host.netAddresses.length := by
    rw [reconcile_eq_map_agreed, List.length_map, ← (returned_together_iff.mp ran).1.length_eq,
      lanes_length]
  apply List.ext_getElem?
  intro place
  rw [List.getElem?_map]
  cases there : (reconcile ended)[place]? with
  | none =>
    symm
    rw [Option.map_none, List.getElem?_eq_none_iff, ← size]
    exact List.getElem?_eq_none_iff.mp there
  | some entry =>
    obtain ⟨address, listed, about, _⟩ := result_at_place ran there
    rw [Option.map_some, about, listed]

theorem results_are_distinct (distinct : DistinctProtocols test.host) :
    ((reconcile ended).map fun r => r.netAddress.protocol).Nodup := by
  have protocols : ((reconcile ended).map ProbeReport.netAddress).map NetAddress.protocol =
      (reconcile ended).map fun r => r.netAddress.protocol := List.map_map
  rw [← protocols, results_are_about_addresses ran]
  exact distinct

theorem probed_of_release {e : Nat × ProbeReport} (member : e ∈ ended)
    (carries : newestRelease? e.2 ≠ none) : ∃ place address client,
      test.IsProbed world place address client ∧ e.2.netAddress = address ∧
      (test.probe policy resolver world address client start).ending = .returned e.1 e.2 := by
  obtain ⟨place, there⟩ := List.getElem?_of_mem member
  obtain ⟨address, _, outcome⟩ := ended_at_place ran there
  have about := (outcome_is_own outcome).about
  generalize e.2 = own at outcome carries about ⊢
  cases outcome with
  | repeated | unserved | crashed => exact absurd (rejected_has_no_release _ _) carries
  | past => exact absurd (untouched_is_silent rfl) carries
  | probed probed returned => exact ⟨place, address, _, probed, about, returned⟩

theorem releases_apart (apart : test.ToldApart policy resolver world start) :
    ∀ e ∈ ended, ∀ f ∈ ended, ∀ a b, newestRelease? e.2 = some a → newestRelease? f.2 = some b →
      e.1 = f.1 → a = b := by
  intro e memberE f memberF a b ownE ownF together
  have carriesE : newestRelease? e.2 ≠ none := by simp [ownE]
  have carriesF : newestRelease? f.2 ≠ none := by simp [ownF]
  by_cases same : e.2.netAddress.protocol = f.2.netAddress.protocol
  · obtain ⟨i, atE⟩ := List.getElem?_of_mem memberE
    obtain ⟨j, atF⟩ := List.getElem?_of_mem memberF
    cases (ended_is_unsettled ran).distinct i j e f atE atF carriesE carriesF same
    cases atE.symm.trans atF
    exact Option.some.inj (ownE.symm.trans ownF)
  · obtain ⟨i, address, client, probed, rfl, returned⟩ := probed_of_release ran memberE carriesE
    obtain ⟨j, rival, clientOther, probedOther, rfl, returnedOther⟩ :=
      probed_of_release ran memberF carriesF
    have newestE := newest_of_release carriesE
    have newestF := newest_of_release carriesF
    unfold newestRelease? at ownE ownF
    rw [if_pos newestE] at ownE
    rw [if_pos newestF] at ownF
    rw [together] at returned
    exact apart i j _ _ client clientOther _ _ _ a b probed probedOther
      (rivals_of_newest newestE newestF same) returned returnedOther ownE ownF

theorem ended_of_probed {place : Nat} {address : NetAddress} {client : Client} {u : Nat}
    {own : ProbeReport} (probed : test.IsProbed world place address client)
    (returned : (test.probe policy resolver world address client start).ending =
      .returned u own) : ended[place]? = some (u, own) := by
  obtain ⟨⟨v, report⟩, there, alike⟩ := forall₂_at (returned_together_iff.mp ran).1
    (lane_of_probed policy resolver world test probed)
  rw [ending_of_rescued, returned] at alike
  cases alike
  exact there

theorem apart_of_instants (different : (ended.map Prod.fst).Nodup) :
    test.ToldApart policy resolver world start := by
  intro i j address rival client clientOther u own other _ _ probed probedOther rivals returned
    returnedOther
  have here := ended_of_probed ran probed returned
  have there := ended_of_probed ran probedOther returnedOther
  obtain ⟨inside, _⟩ := List.getElem?_eq_some_iff.mp here
  have onePlace : i = j := by
    refine (List.getElem?_inj (by rwa [List.length_map]) different).mp ?_
    rw [List.getElem?_map, List.getElem?_map, here, there]
    rfl
  subst onePlace
  cases probed.listed.symm.trans probedOther.listed
  rcases rivals with ⟨siamux, quic⟩ | ⟨quic, siamux⟩
  · cases siamux.symm.trans quic
  · cases siamux.symm.trans quic

theorem reconcile_of_rearranged (all : order.Perm (List.range ended.length))
    (apart : test.ToldApart policy resolver world start) :
    reconcile (rearranged order ended) = rearranged order (reconcile ended) := by
  rw [reconcile_eq_map_agreed, reconcile_eq_map_agreed, rearranged_map,
    first_release_of_perm (rearranged_perm all) (releases_apart ran apart)]

end Ended

theorem announced_of_perm {results others : List ProbeReport}
    (distinct : (results.map fun r => r.netAddress.protocol).Nodup)
    (perm : others.Perm results) : announced? others = announced? results := by
  rw [announced_eq_find, announced_eq_find]
  apply find_of_perm perm
  intro x inX y inY a b carriesX carriesY
  obtain ⟨rhp2, _⟩ := announcement_iff.mp carriesX
  obtain ⟨rhp2', _⟩ := announcement_iff.mp carriesY
  cases List.inj_on_of_nodup_map distinct inX inY (rhp2.trans rhp2'.symm)
  exact Option.some.inj (carriesX.symm.trans carriesY)

theorem derived_of_reordered {results others : List ProbeReport}
    (distinct : (results.map fun r => r.netAddress.protocol).Nodup) (perm : others.Perm results)
    (all : order.Perm (List.range test.host.netAddresses.length)) :
    (test.reorderedTest order).derivedIfDue policy resolver world others =
      test.derivedIfDue policy resolver world results := by
  have listed : ((rearranged order test.host.netAddresses).any fun a => a.protocol = .rhp3) =
      test.host.netAddresses.any fun a => a.protocol = .rhp3 := (rearranged_perm all).any_eq
  unfold derivedIfDue
  rw [announced_of_perm distinct perm]
  change (if test.legacyAllowed && !((rearranged order test.host.netAddresses).any fun a =>
    a.protocol = .rhp3) then _ else _) = _
  rw [listed]
  rfl

structure Rearranged (order : List Nat) (report other : HostReport) : Prop where
  publicKey : other.publicKey = report.publicKey
  results : other.results = rearranged order report.results
  rhp3 : other.rhp3 = report.rhp3
  has_errors : other.hasErrors = report.hasErrors
  version : Agreeing report.results → other.version = report.version

def FirstListedDecides (report : HostReport) : Prop :=
  ∀ (i j : Nat) (e f : ProbeReport) (release other : String), i < j →
    report.results[i]? = some e → report.results[j]? = some f →
    Rivals e.netAddress.protocol f.netAddress.protocol →
    e.release = some release → f.release = some other → report.version = release

theorem report_of_rearranged {results : List ProbeReport} (key : PublicKey)
    (rhp3 : Option ProbeReport) (distinct : (results.map fun r => r.netAddress.protocol).Nodup)
    (all : order.Perm (List.range results.length)) :
    let others := rearranged order results
    let report : HostReport := ⟨key, inferVersion results rhp3, results, rhp3⟩
    let other : HostReport := ⟨key, inferVersion others rhp3, others, rhp3⟩
    Rearranged order report other ∧ FirstListedDecides report ∧ FirstListedDecides other := by
  intro others report other
  have perm : others.Perm results := rearranged_perm all
  have distinctOther : (others.map fun r => r.netAddress.protocol).Nodup :=
    (perm.map _).nodup_iff.mpr distinct
  refine ⟨⟨rfl, rfl, rfl, ?_, fun agreeing => version_of_perm distinct agreeing perm⟩, ?_, ?_⟩
  · exact (perm.append_right rhp3.toList).any_eq
  · intro i j e f _ _ before here there rivals own _
    exact version_of_first distinct before here there rivals own
  · intro i j e f _ _ before here there rivals own _
    exact version_of_first distinctOther before here there rivals own

theorem test_of_reordered {cut start : Nat} (cancelled : test.token.cancelledAt = some cut)
    (distinct : DistinctProtocols test.host)
    (all : order.Perm (List.range test.host.netAddresses.length))
    (apart : test.ToldApart policy resolver world start) :
    let course := test.run policy resolver world start
    let courseOther := (test.reorderedTest order).run policy resolver world start
    courseOther.calls.Perm course.calls ∧
      (∀ t reason, course.ending = .crashed t reason → courseOther.ending = .crashed t reason) ∧
      ∀ t report, course.ending = .returned t report →
        ∃ other, courseOther.ending = .returned t other ∧ Rearranged order report other ∧
          FirstListedDecides report ∧ FirstListedDecides other := by
  intro course courseOther
  obtain ⟨u, ended, ran⟩ := lanes_return policy resolver world test cancelled start
  have size : ended.length = test.host.netAddresses.length := by
    rw [← (returned_together_iff.mp ran).1.length_eq, lanes_length]
  have allLanes : order.Perm
      (List.range (test.lanes policy resolver world [] test.host.netAddresses).length) := by
    rwa [lanes_length]
  obtain ⟨ranOther, calls⟩ := together_rearranged allLanes ran
  rw [← lanes_of_reordered distinct all] at ranOther calls
  have results : reconcile (rearranged order ended) = rearranged order (reconcile ended) :=
    reconcile_of_rearranged ran (size ▸ all) apart
  have sizeResults : (reconcile ended).length = test.host.netAddresses.length := by
    rw [reconcile_eq_map_agreed, List.length_map, size]
  have allResults : order.Perm (List.range (reconcile ended).length) := sizeResults ▸ all
  have distinctResults := results_are_distinct ran distinct
  have derived : (test.reorderedTest order).derivedIfDue policy resolver world
      (rearranged order (reconcile ended)) =
        test.derivedIfDue policy resolver world (reconcile ended) :=
    derived_of_reordered distinctResults (rearranged_perm allResults) all
  rw [← results] at derived
  have log : course.calls = _ := host_test_log ran
  have logOther : courseOther.calls = _ := host_test_log ranOther
  rw [derived] at logOther
  refine ⟨?_, ?_, ?_⟩
  · rw [log, logOther]
    exact calls.append_right _
  · intro t reason crashed
    apply (host_test_crashes_as_derived ranOther).mpr
    rw [derived]
    exact (host_test_crashes_as_derived ran).mp crashed
  · intro t report returned
    obtain ⟨rhp3, probed, rfl⟩ := (host_test_returns_iff ran).mp returned
    rw [← derived] at probed
    have reports := report_of_rearranged test.host.publicKey rhp3 distinctResults allResults
    rw [← results] at reports
    exact ⟨_, (host_test_returns_iff ranOther).mpr ⟨rhp3, probed, rfl⟩, reports⟩

end Reordered

end HostTest

open HostTest

theorem ask_of_reordered (self : Inspector) (world : World) (now : Nat) (host : Host)
    (caller : Token) (order : List Nat) :
    self.ask world now (reordered order host) caller =
      ((self.ask world now host caller).1.map fun test => test.reorderedTest order,
        (self.ask world now host caller).2) := by
  unfold ask
  split
  · rfl
  · have sameKey : (reordered order host).publicKey = host.publicKey := rfl
    rw [sameKey]
    cases self.cooldown.claim self.policy.cooldown now host.publicKey with
    | error remaining => rfl
    | ok cooldown => rfl

namespace Disagreeing

end Disagreeing
end HostHealth.Inspector
