import HostHealth.Proofs.AddressOrder
import HostHealth.Proofs.ReleaseDisputes

/- The version of a host is that of the foremost entry with a release. When the probes finished
   makes no difference to it, unlike to disputes about releases. -/
namespace HostHealth

open Net

namespace Net.Generation

def age : Generation → Nat
  | .v4 => 0
  | .v3 => 1
  | .v2 => 2

theorem age_inj {a b : Generation} (same : a.age = b.age) : a = b := by
  cases a <;> cases b <;> first | rfl | cases same

theorem newest_first_by_age : newestFirst.Pairwise fun a b => a.age < b.age := by decide

theorem mem_newest_first (generation : Generation) : generation ∈ newestFirst := by
  cases generation <;> decide

end Net.Generation

/-- The generation of the protocol, whatever that of the settings. -/
def ProbeReport.generation (report : ProbeReport) : Generation :=
  report.netAddress.protocol.generation

namespace Inspector

open Probe Timed

namespace HostTest

/-- The first entry that tells a release, by generation and then by place. -/
structure IsForemost (entries : List ProbeReport) (place : Nat) (own : ProbeReport) : Prop where
  there : entries[place]? = some own
  carries : own.release ≠ none
  first : ∀ (i : Nat) (other : ProbeReport), entries[i]? = some other → other.release ≠ none →
    own.generation.age < other.generation.age ∨ own.generation = other.generation ∧ place ≤ i

def IsVersion (entries : List ProbeReport) (version : String) : Prop :=
  (∃ place own, IsForemost entries place own ∧ own.release = some version) ∨
    (∀ entry ∈ entries, entry.release = none) ∧ version = ""

/-- Of no weight beside a release of the generation. -/
def IsMinor (generation : Generation) (report : ProbeReport) : Prop :=
  report.release = none ∨ generation.age < report.generation.age

instance (generation : Generation) : DecidablePred (IsMinor generation) :=
  fun _ => inferInstanceAs (Decidable (_ ∨ _))

def carried (generation : Generation) (report : ProbeReport) : Option String :=
  if report.generation = generation then report.release else none

def versionOf? (entries : List ProbeReport) : Option String :=
  Generation.newestFirst.findSome? fun generation => releaseOf generation entries

section Foremost

variable {entries : List ProbeReport} {place : Nat} {own other : ProbeReport}
  {generation : Generation} {version : String}

theorem foremost_is_one {i j : Nat} (here : IsForemost entries i own)
    (there : IsForemost entries j other) : i = j ∧ own = other := by
  have forward := here.first j other there.there there.carries
  have backward := there.first i own here.there here.carries
  have same : i = j := by
    rcases forward with newer | ⟨alike, before⟩
    · rcases backward with older | ⟨alike, _⟩
      · exact absurd newer (Nat.lt_asymm older)
      · exact absurd newer (by rw [alike]; exact Nat.lt_irrefl _)
    · rcases backward with older | ⟨_, after⟩
      · exact absurd older (by rw [alike]; exact Nat.lt_irrefl _)
      · exact Nat.le_antisymm before after
  subst same
  exact ⟨rfl, Option.some.inj (here.there.symm.trans there.there)⟩

theorem foremost_iff : IsForemost entries place own ↔
    ∃ front back, entries = front ++ own :: back ∧ front.length = place ∧ own.release ≠ none ∧
      (∀ other ∈ front, other.release ≠ none → own.generation.age < other.generation.age) ∧
      ∀ other ∈ back, other.release ≠ none → own.generation.age ≤ other.generation.age := by
  constructor
  · rintro ⟨there, carries, first⟩
    obtain ⟨inside, same⟩ := List.getElem?_eq_some_iff.mp there
    refine ⟨entries.take place, entries.drop (place + 1), ?_, by simp; omega, carries, ?_, ?_⟩
    · rw [← same, List.getElem_cons_drop, List.take_append_drop]
    · intro other early told
      obtain ⟨i, found⟩ := List.getElem?_of_mem early
      rw [List.getElem?_take] at found
      split at found
      · rcases first i other found told with newer | ⟨_, later⟩
        · exact newer
        · omega
      · cases found
    · intro other late told
      obtain ⟨i, found⟩ := List.getElem?_of_mem late
      rw [List.getElem?_drop] at found
      rcases first _ other found told with newer | ⟨alike, _⟩
      · exact Nat.le_of_lt newer
      · rw [alike]
  · rintro ⟨front, back, rfl, rfl, carries, before, after⟩
    refine ⟨by simp, carries, ?_⟩
    intro i other found told
    rcases Nat.lt_or_ge i front.length with early | late
    · rw [List.getElem?_append_left early] at found
      exact Or.inl (before other (List.mem_of_getElem? found) told)
    · rw [List.getElem?_append_right late] at found
      have noNewer : own.generation.age ≤ other.generation.age := by
        rcases List.mem_cons.mp (List.mem_of_getElem? found) with rfl | behind
        · exact Nat.le_refl _
        · exact after other behind told
      rcases Nat.lt_or_eq_of_le noNewer with newer | alike
      · exact Or.inl newer
      · exact Or.inr ⟨Generation.age_inj alike, late⟩

theorem release_of_eq (generation : Generation) (entries : List ProbeReport) :
    releaseOf generation entries = entries.findSome? (carried generation) := by
  unfold releaseOf
  induction entries with
  | nil => rfl
  | cons entry rest ih =>
    rw [List.filter_cons, List.findSome?_cons, ← ih]
    unfold carried ProbeReport.generation
    by_cases same : entry.netAddress.protocol.generation = generation
    · rw [if_pos same, if_pos (decide_eq_true same), List.findSome?_cons]
    · rw [if_neg same, if_neg (by simpa using same)]

theorem carried_of_told (told : own.release ≠ none) (silent : carried generation own = none) :
    own.generation ≠ generation := by
  rintro rfl
  unfold carried at silent
  rw [if_pos rfl] at silent
  exact told silent

theorem foremost_of_found (found : versionOf? entries = some version) :
    ∃ place own, IsForemost entries place own ∧ own.release = some version := by
  unfold versionOf? at found
  simp only [release_of_eq] at found
  obtain ⟨newer, generation, older, all, within, nothing⟩ := List.findSome?_eq_some_iff.mp found
  obtain ⟨front, own, back, rfl, here, before⟩ := List.findSome?_eq_some_iff.mp within
  have byAge := Generation.newest_first_by_age
  rw [all] at byAge
  obtain ⟨same, told⟩ : own.generation = generation ∧ own.release = some version := by
    unfold carried at here
    split at here
    · exact ⟨‹_›, here⟩
    · cases here
  subst same
  have noNewer : ∀ other ∈ front ++ own :: back, other.release ≠ none →
      own.generation.age ≤ other.generation.age := by
    intro other member carries
    have listed := Generation.mem_newest_first other.generation
    rw [all] at listed
    rcases List.mem_append.mp listed with later | rest
    · have silent := List.findSome?_eq_none_iff.mp (nothing _ later) other member
      exact absurd rfl (carried_of_told carries silent)
    · rcases List.mem_cons.mp rest with alike | earlier
      · rw [alike]
      · exact Nat.le_of_lt (List.rel_of_pairwise_cons (List.pairwise_append.mp byAge).2.1 earlier)
  refine ⟨front.length, own, foremost_iff.mpr ⟨front, back, rfl, rfl, ?_, ?_, ?_⟩, told⟩
  · rw [told]
    exact Option.some_ne_none _
  · intro other early carries
    have unlike := carried_of_told carries (before other early)
    refine Nat.lt_of_le_of_ne (noNewer other (List.mem_append_left _ early) carries) ?_
    intro same
    exact unlike (Generation.age_inj same).symm
  · intro other late carries
    exact noNewer other (List.mem_append_right _ (List.mem_cons_of_mem _ late)) carries

theorem silent_of_not_found (nothing : versionOf? entries = none) :
    ∀ entry ∈ entries, entry.release = none := by
  intro entry member
  unfold versionOf? at nothing
  simp only [release_of_eq] at nothing
  have own := List.findSome?_eq_none_iff.mp
    (List.findSome?_eq_none_iff.mp nothing _ (Generation.mem_newest_first entry.generation))
    entry member
  by_contra carries
  exact carried_of_told carries own rfl

theorem version_is_one {version' : String} (first : IsVersion entries version)
    (second : IsVersion entries version') : version = version' := by
  have foremost_of_silent : (∀ entry ∈ entries, entry.release = none) →
      ∀ place own, ¬ IsForemost entries place own := fun silent place own foremost =>
    foremost.carries (silent own (List.mem_of_getElem? foremost.there))
  rcases first with ⟨i, own, here, told⟩ | ⟨silent, rfl⟩
  · rcases second with ⟨j, other, there, told'⟩ | ⟨silent, _⟩
    · obtain ⟨_, rfl⟩ := foremost_is_one here there
      exact Option.some.inj (told.symm.trans told')
    · exact absurd here (foremost_of_silent silent i own)
  · rcases second with ⟨j, other, there, _⟩ | ⟨_, rfl⟩
    · exact absurd there (foremost_of_silent silent j other)
    · rfl

theorem infer_version_iff (results : List ProbeReport) (rhp3 : Option ProbeReport) :
    IsVersion (results ++ rhp3.toList) version ↔ version = inferVersion results rhp3 := by
  have inferred : IsVersion (results ++ rhp3.toList) (inferVersion results rhp3) := by
    change IsVersion _ ((versionOf? (results ++ rhp3.toList)).getD "")
    cases found : versionOf? (results ++ rhp3.toList) with
    | none => exact Or.inr ⟨silent_of_not_found found, rfl⟩
    | some version => exact Or.inl (foremost_of_found found)
  constructor
  · exact fun own => version_is_one own inferred
  · rintro rfl
    exact inferred

end Foremost

section Exchanges

variable {entries : List ProbeReport} {place : Nat} {own : ProbeReport}

def weighty (generation : Generation) (entries : List ProbeReport) : List ProbeReport :=
  entries.filter fun entry => ¬ IsMinor generation entry

theorem minor_iff {generation : Generation} {entry : ProbeReport} :
    IsMinor generation entry ↔ (entry.release ≠ none → generation.age < entry.generation.age) := by
  unfold IsMinor
  constructor
  · rintro (silent | older) told
    · exact absurd silent told
    · exact older
  · intro older
    by_cases silent : entry.release = none
    · exact Or.inl silent
    · exact Or.inr (older silent)

theorem mem_weighty_iff {generation : Generation} {entry : ProbeReport} :
    entry ∈ weighty generation entries ↔
      entry ∈ entries ∧ entry.release ≠ none ∧ entry.generation.age ≤ generation.age := by
  unfold weighty IsMinor
  rw [List.mem_filter, decide_eq_true_iff, not_or, Nat.not_lt]

theorem weighty_of_minor {generation : Generation}
    (minor : ∀ entry ∈ entries, IsMinor generation entry) : weighty generation entries = [] :=
  List.filter_eq_nil_iff.mpr fun entry member => by simpa using minor entry member

theorem weighty_of_exchange {generation : Generation} {front old new back : List ProbeReport}
    (minor : ∀ entry ∈ old ++ new, IsMinor generation entry) :
    weighty generation (front ++ new ++ back) = weighty generation (front ++ old ++ back) := by
  have before := weighty_of_minor fun entry member => minor entry (List.mem_append_left _ member)
  have after := weighty_of_minor fun entry member => minor entry (List.mem_append_right _ member)
  unfold weighty at before after ⊢
  simp only [List.filter_append, before, after]

theorem foremost_iff_weighty : (∃ place, IsForemost entries place own) ↔
    (weighty own.generation entries).head? = some own ∧
      ∀ entry ∈ weighty own.generation entries, entry.generation = own.generation := by
  constructor
  · rintro ⟨place, foremost⟩
    obtain ⟨front, back, rfl, rfl, carries, before, after⟩ := foremost_iff.mp foremost
    have light := weighty_of_minor fun entry early => minor_iff.mpr (before entry early)
    have heavy : ¬ IsMinor own.generation own := by
      rw [minor_iff]
      exact fun older => Nat.lt_irrefl _ (older carries)
    have split : weighty own.generation (front ++ own :: back) =
        own :: weighty own.generation back := by
      unfold weighty at light ⊢
      rw [List.filter_append, light, List.filter_cons_of_pos (by simpa using heavy)]
      rfl
    rw [split]
    refine ⟨rfl, ?_⟩
    intro entry member
    rcases List.mem_cons.mp member with rfl | behind
    · rfl
    · obtain ⟨late, told, noOlder⟩ := mem_weighty_iff.mp behind
      exact Generation.age_inj (Nat.le_antisymm noOlder (after entry late told))
  · rintro ⟨first, alike⟩
    obtain ⟨rest, all⟩ := List.head?_eq_some_iff.mp first
    obtain ⟨front, back, rfl, light, _, _⟩ := List.filter_eq_cons_iff.mp all
    have own_member : own ∈ weighty own.generation (front ++ own :: back) := by
      rw [all]
      exact List.mem_cons_self
    refine ⟨front.length, foremost_iff.mpr
      ⟨front, back, rfl, rfl, (mem_weighty_iff.mp own_member).2.1, ?_, ?_⟩⟩
    · intro other early
      have minor : IsMinor own.generation other := by simpa using light other early
      exact minor_iff.mp minor
    · intro other late told
      by_contra newer
      have member : other ∈ weighty own.generation (front ++ own :: back) :=
        mem_weighty_iff.mpr ⟨List.mem_append_right _ (List.mem_cons_of_mem _ late), told, by omega⟩
      rw [alike other member] at newer
      exact newer (Nat.le_refl _)

theorem foremost_after_exchange {front old new back : List ProbeReport}
    (foremost : IsForemost (front ++ old ++ back) place own)
    (minor : ∀ entry ∈ old ++ new, IsMinor own.generation entry) :
    ∃ place', IsForemost (front ++ new ++ back) place' own := by
  have first := foremost_iff_weighty.mp ⟨place, foremost⟩
  rw [foremost_iff_weighty, weighty_of_exchange minor]
  exact first

end Exchanges

section Orders

variable {ended : List (Nat × ProbeReport)} {order : List Finish} {results : List ProbeReport}

theorem compared_tells (first : Option String) (report : ProbeReport) :
    (compared first report).generation = report.generation ∧
      (compared first report).release = report.release ∧
      (compared first report).scanned = report.scanned := by
  obtain ⟨added, same, _⟩ := compared_adds_disputes first report
  rw [same]
  exact ⟨rfl, rfl, rfl⟩

theorem release_of_compared (generation : Generation) (first : Option String) :
    releaseOf generation (ended.map fun e => compared first e.2) =
      releaseOf generation (ended.map Prod.snd) := by
  rw [release_of_eq, release_of_eq, List.findSome?_map, List.findSome?_map]
  congr 1
  funext e
  obtain ⟨alike, told, _⟩ := compared_tells first e.2
  simp only [Function.comp_apply, carried, alike, told]

theorem version_of_settled (perm : order.Perm ended.zipIdx) (settled : SettledAs order results)
    (rhp3 : Option ProbeReport) :
    inferVersion results rhp3 = inferVersion (ended.map Prod.snd) rhp3 := by
  rw [(settled_as_iff perm).mp settled]
  simp only [infer_version_eq, release_of_compared]

end Orders

section Failures

variable {policy : Policy} {resolver : Dns.Resolver} {world : World} {test : HostTest}
  {entry : ProbeReport}

theorem release_of_unset (unset : entry.settings = none) : entry.release = none := by
  unfold ProbeReport.release
  rw [unset]
  rfl

theorem release_of_unscanned {setup : Setup} {address : NetAddress}
    (staged : Staged setup address entry) (unscanned : entry.scanned = false) :
    entry.release = none := by
  apply release_of_unset
  by_contra set
  have scanned := staged.settings_iff_scanned.mp (Option.isSome_iff_ne_none.mpr set)
  cases unscanned.symm.trans scanned

theorem outcome_without_scan {start place t : Nat} {address : NetAddress}
    (outcome : Outcome policy resolver world test start place address t entry)
    (unscanned : entry.scanned = false) : entry.release = none := by
  cases outcome with
  | repeated | past | unserved | crashed => exact release_of_unset rfl
  | probed _ returned =>
    exact release_of_unscanned (returned_probe_is_staged _ _ _ _ _ _ _ returned) unscanned

theorem derived_outcome_without_scan {settings : SettingsV2} {start t : Nat}
    (outcome : DerivedOutcome policy resolver world test settings start t entry)
    (unscanned : entry.scanned = false) : entry.release = none := by
  cases outcome with
  | unreadable | unserved => exact release_of_unset rfl
  | probed _ _ _ returned =>
    exact release_of_unscanned (returned_probe_is_staged _ _ _ _ _ _ _ returned) unscanned

end Failures

/-- The version of a host, for all results that there may be and for those of any test that returns.
    It is the same for every order in which the probes may have finished, and entries of no weight
    beside the one that it comes from can be put anywhere, taken away or exchanged. An entry that
    does not come as far as its settings tells no release. -/
theorem version_is_foremost (policy : Policy) (resolver : Dns.Resolver) (world : World)
    (test : HostTest) (start : Nat) :
    (∀ results rhp3 version,
      IsVersion (results ++ rhp3.toList) version ↔ version = inferVersion results rhp3) ∧
    (∀ (ended : List (Nat × ProbeReport)) order results rhp3, order.Perm ended.zipIdx →
      SettledAs order results →
      inferVersion results rhp3 = inferVersion (ended.map Prod.snd) rhp3) ∧
    (∀ front old new back place own, IsForemost (front ++ old ++ back) place own →
      (∀ entry ∈ old ++ new, IsMinor own.generation entry) →
      (∃ place', IsForemost (front ++ new ++ back) place' own) ∧
        ∀ version, IsVersion (front ++ old ++ back) version →
          IsVersion (front ++ new ++ back) version) ∧
    ∀ t report, (test.run policy resolver world start).ending = .returned t report →
      IsVersion report.all report.version ∧
      (∀ entry ∈ report.all, entry.scanned = false → entry.release = none) ∧
      ∃ u ended, (together (test.lanes policy resolver world [] test.host.netAddresses)
          start).ending = .returned u ended ∧
        SettledAs (inTurn ended) report.results := by
  refine ⟨fun results rhp3 _ => infer_version_iff results rhp3,
    fun _ _ _ rhp3 perm settled => version_of_settled perm settled rhp3, ?exchanges, ?tests⟩
  case exchanges =>
    intro front old new back place own foremost minor
    obtain ⟨place', still⟩ := foremost_after_exchange foremost minor
    refine ⟨⟨place', still⟩, ?_⟩
    intro version before
    obtain ⟨release, told⟩ := Option.ne_none_iff_exists'.mp foremost.carries
    cases version_is_one before (Or.inl ⟨place, own, foremost, told⟩)
    exact Or.inl ⟨place', own, still, told⟩
  case tests =>
    intro t report returned
    obtain ⟨u, ended, joined, after⟩ := returned_bind_iff.mp returned
    obtain ⟨v, rhp3, probed, rest⟩ := returned_bind_iff.mp after
    obtain ⟨_, rfl⟩ := returned_pure_iff.mp rest
    have settled := reconciled_in_turn ended
    refine ⟨(infer_version_iff (reconcile ended) rhp3).mpr rfl, ?_, u, ended, joined, settled⟩
    intro entry member unscanned
    rcases List.mem_append.mp member with listed | derived
    · dsimp only at listed
      rw [(settled_as_iff (in_turn_perm ended)).mp settled] at listed
      obtain ⟨e, there, rfl⟩ := List.mem_map.mp listed
      obtain ⟨_, told, scanned⟩ := compared_tells (firstOf (inTurn ended)) e.2
      obtain ⟨place, found⟩ := List.getElem?_of_mem there
      obtain ⟨address, _, outcome⟩ := ended_at_place joined found
      rw [told]
      exact outcome_without_scan outcome (scanned.symm.trans unscanned)
    · have own : rhp3 = some entry := Option.mem_toList.mp derived
      rw [own] at probed
      obtain ⟨_, _, settings, _, outcome⟩ := derived_entry_outcome probed
      exact derived_outcome_without_scan outcome unscanned

end HostTest

open HostTest

namespace Disagreeing

theorem version_of_slow_siamux :
    let older := scanned ⟨"1.2.3.4:3", .rhp2⟩ 1 "v0.9.0"
    (test.run next.policy next.resolver world 0).ending = .returned 11 report ∧
    IsVersion report.all "v1.0.0" ∧
    (∃ results, SettledAs [((11, slow), 0), ((3, fast), 1)] results ∧
      inferVersion results none = "v1.0.0") ∧
    IsForemost [slow, fast] 0 slow ∧ IsMinor .v4 older ∧
    IsVersion [older, slow, fast] "v1.0.0" := by
  intro older
  have returned : (test.run next.policy next.resolver world 0).ending = .returned 11 report := by
    rfl
  have told : slow.release = some "v1.0.0" := rfl
  have newest : slow.generation.age = 0 := rfl
  have foremost : IsForemost [slow, fast] 0 slow := by
    refine foremost_iff.mpr ⟨[], [fast], rfl, rfl, by simp [told], List.forall_mem_nil _, ?_⟩
    intro _ _ _
    rw [newest]
    exact Nat.zero_le _
  have minor : IsMinor .v4 older := Or.inr (by decide)
  have perm : [((11, slow), 0), ((3, fast), 1)].Perm [(11, slow), (3, fast)].zipIdx := .refl _
  have settled := (settled_as_iff perm).mpr rfl
  obtain ⟨_, orders, exchanges, tests⟩ :=
    version_is_foremost next.policy next.resolver world test 0
  have exchanged := exchanges [] [] [older] [slow, fast] 0 slow foremost
    (fun entry member => by rw [List.mem_singleton.mp member]; exact minor)
  exact ⟨returned, (tests 11 report returned).1, ⟨_, settled, orders _ _ _ none perm settled⟩,
    foremost, minor, exchanged.2 "v1.0.0" (Or.inl ⟨0, slow, foremost, told⟩)⟩

end Disagreeing
end Inspector
end HostHealth
