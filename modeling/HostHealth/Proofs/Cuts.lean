import HostHealth.Proofs.Courses

/- Cutting an activity short. The same activity under a token that is cancelled at `c` goes the
   way of the undisturbed one up to `c`: if that was over before, nothing has changed, and if not,
   the cut activity ends at `c` with the requests that had been started before. -/
namespace HostHealth

namespace Course

variable {κ α : Type}

def OverBefore (c : Nat) (course : Course κ α) : Prop :=
  ∃ t, course.ending.instant? = some t ∧ t < c

end Course

def startedBefore {κ : Type} (c : Nat) (calls : List (Nat × κ)) : List (Nat × κ) :=
  calls.filter fun call => call.1 < c

namespace Timed

variable {κ α β : Type}

/-- All requests fall between the start and the end. -/
def Orderly (activity : Timed κ α) : Prop :=
  ∀ start, (∀ call ∈ (activity start).calls, start ≤ call.1) ∧
    ∀ t, (activity start).ending.instant? = some t →
      start ≤ t ∧ ∀ call ∈ (activity start).calls, call.1 ≤ t

/-- `cut` is what becomes of `whole` at `c`. What comes just at `c`, in a race with the cut, may
    count or may not. -/
structure CutShort (c : Nat) (whole cut : Timed κ α) : Prop where
  orderly : Orderly whole
  orderly_cut : Orderly cut
  kept : ∀ start < c, (whole start).OverBefore c → cut start = whole start
  broken : ∀ start < c, ¬ (whole start).OverBefore c →
    startedBefore c (cut start).calls = startedBefore c (whole start).calls ∧
    (cut start).ending.instant? = some c
  idle : ∀ start, c ≤ start → (cut start).ending.instant? = some start

/-- And without such a race there is no doubt what the cut activity comes back with. `tied` are
    the requests that come to an end just at the cut, and `lost` says what an activity that started
    at an instant has left. -/
structure CleanCut (c : Nat) (tied : Nat × κ → Prop) (whole cut : Timed κ α)
    (lost : Nat → α → Prop) : Prop extends CutShort c whole cut where
  lost : ∀ start < c, ¬ (whole start).OverBefore c →
    (∀ call ∈ startedBefore c (whole start).calls, ¬ tied call) →
    (cut start).calls = startedBefore c (whole start).calls ∧
    ∃ value, (cut start).ending = .returned c value ∧ lost start value

theorem CutShort.same_if_early {c : Nat} {whole cut : Timed κ α} (law : CutShort c whole cut)
    {start t : Nat} (soon : t < c)
    (ended : (whole start).ending.instant? = some t ∨ (cut start).ending.instant? = some t) :
    cut start = whole start := by
  by_cases before : start < c
  · by_cases early : (whole start).OverBefore c
    · exact law.kept start before early
    · rcases ended with ended | ended
      · exact absurd ⟨t, ended, soon⟩ early
      · cases ended.symm.trans (law.broken start before early).2
        exact absurd soon (Nat.lt_irrefl _)
  · rcases ended with ended | ended
    · have begun := ((law.orderly start).2 t ended).1
      exact absurd (Nat.lt_of_le_of_lt begun soon) before
    · cases ended.symm.trans (law.idle start (Nat.not_lt.mp before))
      exact absurd soon before

theorem bind_of_returned {first : Timed κ α} {next : α → Timed κ β} {start t : Nat} {value : α}
    (ended : (first start).ending = .returned t value) :
    (first >>= next) start =
      ⟨(first start).calls ++ (next value t).calls, (next value t).ending⟩ := by
  change Timed.bind first next start = _
  simp only [Timed.bind, ended]

theorem bind_of_crashed {first : Timed κ α} {next : α → Timed κ β} {start t : Nat}
    {reason : String} (ended : (first start).ending = .crashed t reason) :
    (first >>= next) start = ⟨(first start).calls, .crashed t reason⟩ := by
  change Timed.bind first next start = _
  simp only [Timed.bind, ended]

theorem bind_of_pending {first : Timed κ α} {next : α → Timed κ β} {start : Nat}
    (ended : (first start).ending = .pending) :
    (first >>= next) start = ⟨(first start).calls, .pending⟩ := by
  change Timed.bind first next start = _
  simp only [Timed.bind, ended]

theorem calls_of_first (first : Timed κ α) (next : α → Timed κ β) (start : Nat) :
    ∀ call ∈ (first start).calls, call ∈ ((first >>= next) start).calls := by
  intro call member
  cases ended : (first start).ending with
  | returned t value =>
    rw [bind_of_returned ended]
    exact List.mem_append_left _ member
  | crashed t reason =>
    rw [bind_of_crashed ended]
    exact member
  | pending =>
    rw [bind_of_pending ended]
    exact member

theorem done_bind (value : α) (next : α → Timed κ β) : (pure value >>= next) = next value := by
  funext start
  exact bind_of_returned (returned_pure_iff.mpr ⟨rfl, rfl⟩)

theorem bind_bind {γ : Type} (first : Timed κ α) (next : α → Timed κ β) (last : β → Timed κ γ) :
    (first >>= next >>= last) = (first >>= fun value => next value >>= last) := by
  funext start
  cases ended : (first start).ending with
  | returned t value =>
    rw [bind_of_returned ended]
    have begun : ((first >>= next) start).ending = (next value t).ending := by
      rw [bind_of_returned ended]
    have calls : ((first >>= next) start).calls = (first start).calls ++ (next value t).calls := by
      rw [bind_of_returned ended]
    cases rest : (next value t).ending with
    | returned u result =>
      rw [bind_of_returned (begun.trans rest), bind_of_returned rest, calls, List.append_assoc]
    | crashed u reason =>
      rw [bind_of_crashed (begun.trans rest), bind_of_crashed rest, calls]
    | pending =>
      rw [bind_of_pending (begun.trans rest), bind_of_pending rest, calls]
  | crashed t reason =>
    have begun : ((first >>= next) start).ending = .crashed t reason := by
      rw [bind_of_crashed ended]
    rw [bind_of_crashed begun, bind_of_crashed ended, bind_of_crashed ended]
  | pending =>
    have begun : ((first >>= next) start).ending = .pending := by rw [bind_of_pending ended]
    rw [bind_of_pending begun, bind_of_pending ended, bind_of_pending ended]

theorem bind_of_same {first : Timed κ α} {next other : α → Timed κ β} {start : Nat}
    (same : ∀ t value, (first start).ending = .returned t value → next value t = other value t) :
    (first >>= next) start = (first >>= other) start := by
  cases ended : (first start).ending with
  | returned t value => rw [bind_of_returned ended, bind_of_returned ended, same t value ended]
  | crashed t reason => rw [bind_of_crashed ended, bind_of_crashed ended]
  | pending => rw [bind_of_pending ended, bind_of_pending ended]

theorem started_before_append (c : Nat) (front back : List (Nat × κ)) :
    startedBefore c (front ++ back) = startedBefore c front ++ startedBefore c back :=
  List.filter_append front back

theorem all_started_before {calls : List (Nat × κ)} {c t : Nat}
    (bounded : ∀ call ∈ calls, call.1 ≤ t) (soon : t < c) : startedBefore c calls = calls := by
  apply List.filter_eq_self.mpr
  intro call member
  have := bounded call member
  exact decide_eq_true (by omega)

theorem none_started_before {calls : List (Nat × κ)} {c t : Nat}
    (after : ∀ call ∈ calls, t ≤ call.1) (since : c ≤ t) : startedBefore c calls = [] := by
  apply List.filter_eq_nil_iff.mpr
  intro call member
  have := after call member
  simp only [decide_eq_true_eq]
  omega

theorem pure_orderly (value : α) : Orderly (pure value : Timed κ α) := by
  intro start
  constructor
  · intro call member
    cases member
  · intro t ended
    cases ended
    exact ⟨Nat.le_refl _, fun call member => by cases member⟩

theorem bind_orderly {first : Timed κ α} {next : α → Timed κ β} (begun : Orderly first)
    (continued : ∀ value, Orderly (next value)) : Orderly (first >>= next) := by
  intro start
  obtain ⟨after, within⟩ := begun start
  cases ended : (first start).ending with
  | returned u value =>
    obtain ⟨later, bounded⟩ := within u (by rw [ended]; rfl)
    obtain ⟨after', within'⟩ := continued value u
    rw [bind_of_returned ended]
    constructor
    · intro call member
      rcases List.mem_append.mp member with old | new
      · exact after call old
      · have := after' call new
        omega
    · intro t finished
      obtain ⟨later', bounded'⟩ := within' t finished
      refine ⟨by omega, ?_⟩
      intro call member
      rcases List.mem_append.mp member with old | new
      · have := bounded call old
        omega
      · exact bounded' call new
  | crashed u reason =>
    rw [bind_of_crashed ended]
    exact ⟨after, fun t finished => within t (by rw [ended]; exact finished)⟩
  | pending =>
    rw [bind_of_pending ended]
    exact ⟨after, fun t finished => by cases finished⟩

theorem calls_of_measured (activity : Timed κ α) (start : Nat) :
    (measured activity start).calls = (activity start).calls := by
  unfold measured Timed.bind
  dsimp only
  cases (activity start).ending with
  | returned t value => exact List.append_nil _
  | crashed t reason => rfl
  | pending => rfl

theorem instant_of_measured (activity : Timed κ α) (start : Nat) :
    (measured activity start).ending.instant? = (activity start).ending.instant? := by
  rw [ending_of_measured]
  cases (activity start).ending <;> rfl

theorem calls_of_rescued (activity : Timed κ α) (rescue : String → α) (start : Nat) :
    (rescued activity rescue start).calls = (activity start).calls := by
  unfold rescued
  dsimp only
  cases (activity start).ending <;> rfl

theorem instant_of_rescued (activity : Timed κ α) (rescue : String → α) (start : Nat) :
    (rescued activity rescue start).ending.instant? = (activity start).ending.instant? := by
  rw [ending_of_rescued]
  cases (activity start).ending <;> rfl

/-- Comes to a value at once, if none of the requests that it may still have made is tied. -/
def AtOnce (start : Nat) (tied : Nat × κ → Prop) (holds : α → Prop) (activity : Timed κ α) : Prop :=
  (∀ call ∈ (activity start).calls, ¬ tied call) →
    ∃ value, (activity start).ending = .returned start value ∧ holds value

section AtOnce

variable {start : Nat} {tied : Nat × κ → Prop}

theorem pure_at_once {holds : α → Prop} {value : α} (h : holds value) :
    AtOnce start tied holds (pure value : Timed κ α) := fun _ => ⟨value, rfl, h⟩

theorem bind_at_once {first : Timed κ α} {next : α → Timed κ β} {holds : α → Prop}
    {holdsNext : β → Prop} (begun : AtOnce start tied holds first)
    (continued : ∀ value, holds value → AtOnce start tied holdsNext (next value)) :
    AtOnce start tied holdsNext (first >>= next) := by
  intro apart
  obtain ⟨value, ended, h⟩ := begun fun call member =>
    apart call (calls_of_first first next start call member)
  rw [bind_of_returned ended] at apart ⊢
  exact continued value h fun call member => apart call (List.mem_append_right _ member)

theorem measured_at_once {activity : Timed κ α} {holds : α → Prop}
    (h : AtOnce start tied holds activity) :
    AtOnce start tied (fun result => holds result.1) (measured activity) := by
  intro apart
  rw [calls_of_measured] at apart
  obtain ⟨value, ended, h'⟩ := h apart
  exact ⟨(value, start - start), by rw [ending_of_measured, ended], h'⟩

theorem rescued_at_once {activity : Timed κ α} {holds : α → Prop} (rescue : String → α)
    (h : AtOnce start tied holds activity) :
    AtOnce start tied holds (rescued activity rescue) := by
  intro apart
  rw [calls_of_rescued] at apart
  obtain ⟨value, ended, h'⟩ := h apart
  exact ⟨value, by rw [ending_of_rescued, ended], h'⟩

end AtOnce

theorem orderly_of_same_shape {activity : Timed κ α} {other : Timed κ β}
    (calls : ∀ start, (other start).calls = (activity start).calls)
    (instants : ∀ start, (other start).ending.instant? = (activity start).ending.instant?)
    (h : Orderly activity) : Orderly other := by
  intro start
  rw [calls, instants]
  exact h start

theorem measured_orderly {activity : Timed κ α} (h : Orderly activity) :
    Orderly (measured activity) :=
  orderly_of_same_shape (calls_of_measured activity) (instant_of_measured activity) h

theorem ends_after_start {activity : Timed κ α} (h : Orderly activity) {start t : Nat} {value : α}
    (ended : (activity start).ending = .returned t value) : start ≤ t :=
  ((h start).2 t (by rw [ended]; rfl)).1

section Cut

variable {c : Nat}

variable {tied : Nat × κ → Prop}

theorem started_before_mono {calls more : List (Nat × κ)} (sub : ∀ call ∈ calls, call ∈ more)
    (apart : ∀ call ∈ startedBefore c more, ¬ tied call) :
    ∀ call ∈ startedBefore c calls, ¬ tied call := by
  intro call member
  obtain ⟨there, early⟩ := List.mem_filter.mp member
  exact apart call (List.mem_filter.mpr ⟨sub call there, early⟩)

theorem CleanCut.weaken {whole cut : Timed κ α}
    {lost less : Nat → α → Prop} (h : CleanCut c tied whole cut lost)
    (less_of_lost : ∀ start value, lost start value → less start value) :
    CleanCut c tied whole cut less := by
  refine ⟨h.toCutShort, ?_⟩
  intro start before running apart
  obtain ⟨calls, value, ended, isLost⟩ := h.lost start before running apart
  exact ⟨calls, value, ended, less_of_lost start value isLost⟩

theorem pure_cut_short (value : α) :
    CutShort c (pure value : Timed κ α) (pure value) := by
  constructor
  · exact pure_orderly value
  · exact pure_orderly value
  · intro start _ _
    rfl
  · intro start before running
    exact absurd ⟨start, rfl, before⟩ running
  · intro start _
    rfl

theorem pure_cut (value : α) (lost : Nat → α → Prop) :
    CleanCut c tied (pure value : Timed κ α) (pure value) lost :=
  ⟨pure_cut_short value, fun start before running _ => absurd ⟨start, rfl, before⟩ running⟩

section Bind

variable {first first' : Timed κ α} {next next' : α → Timed κ β} (begun : CutShort c first first')
  (continued : ∀ value, CutShort c (next value) (next' value))
include begun continued

theorem bind_kept {start t : Nat} (before : start < c)
    (finished : ((first >>= next) start).ending.instant? = some t) (soon : t < c) :
    (first' >>= next') start = (first >>= next) start := by
  cases ended : (first start).ending with
  | returned u value =>
    rw [bind_of_returned ended] at finished
    obtain ⟨later, _⟩ := ((continued value).orderly u).2 t finished
    have same := begun.kept start before ⟨u, by rw [ended]; rfl, by omega⟩
    have ended' : (first' start).ending = .returned u value := by rw [same, ended]
    have kept := (continued value).kept u (by omega) ⟨t, finished, soon⟩
    rw [bind_of_returned ended, bind_of_returned ended', same, kept]
  | crashed u reason =>
    rw [bind_of_crashed ended] at finished
    have same := begun.kept start before ⟨t, by rw [ended]; exact finished, soon⟩
    have ended' : (first' start).ending = .crashed u reason := by rw [same, ended]
    rw [bind_of_crashed ended, bind_of_crashed ended', same]
  | pending =>
    rw [bind_of_pending ended] at finished
    cases finished

end Bind

theorem calls_of_first_before {first : Timed κ α} {next : α → Timed κ β} (orderly : ∀ value, Orderly (next value)) {start : Nat}
    (running : ¬ (first start).OverBefore c) :
    startedBefore c ((first >>= next) start).calls = startedBefore c (first start).calls := by
  cases ended : (first start).ending with
  | returned u other =>
    have since : c ≤ u := by
      by_contra soon
      exact running ⟨u, by rw [ended]; rfl, by omega⟩
    rw [bind_of_returned ended, started_before_append,
      none_started_before (orderly other u).1 since, List.append_nil]
  | crashed u reason => rw [bind_of_crashed ended]
  | pending => rw [bind_of_pending ended]

theorem bind_cut_short {first first' : Timed κ α} {next next' : α → Timed κ β}
    (begun : CutShort c first first') (continued : ∀ value, CutShort c (next value) (next' value)) :
    CutShort c (first >>= next) (first' >>= next') := by
  constructor
  · exact bind_orderly begun.orderly fun value => (continued value).orderly
  · exact bind_orderly begun.orderly_cut fun value => (continued value).orderly_cut
  · rintro start before ⟨t, finished, soon⟩
    exact bind_kept begun continued before finished soon
  · intro start before running
    by_cases finished : (first start).OverBefore c
    · -- The first part is over before the cut, and so it is the second part that is cut.
      obtain ⟨t, instant, soon⟩ := finished
      have same := begun.kept start before ⟨t, instant, soon⟩
      cases ended : (first start).ending with
      | returned u value =>
        rw [ended] at instant
        cases instant
        have ended' : (first' start).ending = .returned t value := by rw [same, ended]
        rw [bind_of_returned ended] at running ⊢
        rw [bind_of_returned ended', same, started_before_append, started_before_append]
        obtain ⟨calls, instant⟩ := (continued value).broken t soon running
        exact ⟨by rw [calls], instant⟩
      | crashed u reason =>
        rw [ended] at instant
        exact absurd ⟨t, by rw [bind_of_crashed ended]; exact instant, soon⟩ running
      | pending =>
        rw [ended] at instant
        cases instant
    · obtain ⟨calls, instant⟩ := begun.broken start before finished
      have still : ¬ (first' start).OverBefore c := by
        rintro ⟨t, passed, soon⟩
        rw [instant] at passed
        cases passed
        exact absurd soon (Nat.lt_irrefl _)
      constructor
      · rw [calls_of_first_before (fun value => (continued value).orderly) finished,
          calls_of_first_before (fun value => (continued value).orderly_cut) still, calls]
      · cases ended : (first' start).ending with
        | returned u value =>
          rw [ended] at instant
          cases instant
          rw [bind_of_returned ended]
          exact (continued value).idle c (Nat.le_refl c)
        | crashed u reason =>
          rw [ended] at instant
          rw [bind_of_crashed ended]
          exact instant
        | pending =>
          rw [ended] at instant
          cases instant
  · intro start since
    have instant := begun.idle start since
    cases ended : (first' start).ending with
    | returned u value =>
      rw [ended] at instant
      cases instant
      rw [bind_of_returned ended]
      exact (continued value).idle start since
    | crashed u reason =>
      rw [ended] at instant
      rw [bind_of_crashed ended]
      exact instant
    | pending =>
      rw [ended] at instant
      cases instant

theorem bind_cut {first first' : Timed κ α} {next next' : α → Timed κ β}
    {lostFirst : Nat → α → Prop} {lost : Nat → β → Prop} (lostNext : α → Nat → β → Prop)
    (begun : CleanCut c tied first first' lostFirst)
    (continued : ∀ value, CleanCut c tied (next value) (next' value) (lostNext value))
    (early : ∀ start value, ¬ (first start).OverBefore c → lostFirst start value →
      ∃ result, next' value c = ⟨[], .returned c result⟩ ∧ lost start result)
    (late : ∀ start t value result, (first start).ending = .returned t value → t < c →
      lostNext value t result → lost start result) :
    CleanCut c tied (first >>= next) (first' >>= next') lost := by
  have law := bind_cut_short begun.toCutShort fun value => (continued value).toCutShort
  refine ⟨law, ?_⟩
  intro start before running apart
  by_cases finished : (first start).OverBefore c
  · obtain ⟨t, instant, soon⟩ := finished
    have same := begun.kept start before ⟨t, instant, soon⟩
    cases ended : (first start).ending with
    | returned u value =>
      rw [ended] at instant
      cases instant
      have ended' : (first' start).ending = .returned t value := by rw [same, ended]
      have bounded := ((begun.orderly start).2 t (by rw [ended]; rfl)).2
      rw [bind_of_returned ended] at running apart ⊢
      rw [bind_of_returned ended', same, started_before_append, all_started_before bounded soon]
      obtain ⟨calls, result, returned, isLost⟩ := (continued value).lost t soon running
        (started_before_mono (fun call => List.mem_append_right _) apart)
      exact ⟨by rw [calls], result, returned, late start t value result ended soon isLost⟩
    | crashed u reason =>
      rw [ended] at instant
      exact absurd ⟨t, by rw [bind_of_crashed ended]; exact instant, soon⟩ running
    | pending =>
      rw [ended] at instant
      cases instant
  · obtain ⟨calls, value, ended', isLost⟩ := begun.lost start before finished
      (started_before_mono (calls_of_first first next start) apart)
    obtain ⟨result, rest, lostResult⟩ := early start value finished isLost
    rw [calls_of_first_before (fun value => (continued value).orderly) finished,
      bind_of_returned ended', rest, List.append_nil]
    exact ⟨calls, result, rfl, lostResult⟩

theorem over_before_of_measured (activity : Timed κ α) (start : Nat) :
    (measured activity start).OverBefore c ↔ (activity start).OverBefore c := by
  unfold Course.OverBefore
  rw [instant_of_measured]

theorem over_before_of_rescued (activity : Timed κ α) (rescue : String → α) (start : Nat) :
    (rescued activity rescue start).OverBefore c ↔ (activity start).OverBefore c := by
  unfold Course.OverBefore
  rw [instant_of_rescued]

theorem measured_cut_short {whole cut : Timed κ α} (h : CutShort c whole cut) :
    CutShort c (measured whole) (measured cut) := by
  constructor
  · exact measured_orderly h.orderly
  · exact measured_orderly h.orderly_cut
  · intro start before finished
    have same := h.kept start before ((over_before_of_measured whole start).mp finished)
    unfold measured Timed.bind
    rw [same]
  · intro start before running
    rw [calls_of_measured, calls_of_measured, instant_of_measured]
    exact h.broken start before fun finished =>
      running ((over_before_of_measured whole start).mpr finished)
  · intro start since
    rw [instant_of_measured]
    exact h.idle start since

theorem measured_cut {whole cut : Timed κ α} {lost : Nat → α → Prop}
    (h : CleanCut c tied whole cut lost) :
    CleanCut c tied (measured whole) (measured cut) fun start result => lost start result.1 := by
  refine ⟨measured_cut_short h.toCutShort, ?_⟩
  intro start before running apart
  rw [calls_of_measured] at apart
  obtain ⟨calls, value, ended, isLost⟩ := h.lost start before
    (fun finished => running ((over_before_of_measured whole start).mpr finished)) apart
  refine ⟨?_, (value, c - start), ?_, isLost⟩
  · rw [calls_of_measured, calls_of_measured, calls]
  · rw [ending_of_measured, ended]

theorem rescued_cut_short {whole cut : Timed κ α} (rescue : String → α)
    (h : CutShort c whole cut) : CutShort c (rescued whole rescue) (rescued cut rescue) := by
  constructor
  · exact orderly_of_same_shape (calls_of_rescued whole rescue) (instant_of_rescued whole rescue)
      h.orderly
  · exact orderly_of_same_shape (calls_of_rescued cut rescue) (instant_of_rescued cut rescue)
      h.orderly_cut
  · intro start before finished
    have same := h.kept start before ((over_before_of_rescued whole rescue start).mp finished)
    unfold rescued
    rw [same]
  · intro start before running
    rw [calls_of_rescued, calls_of_rescued, instant_of_rescued]
    exact h.broken start before fun finished =>
      running ((over_before_of_rescued whole rescue start).mpr finished)
  · intro start since
    rw [instant_of_rescued]
    exact h.idle start since

theorem rescued_cut {whole cut : Timed κ α} {lost : Nat → α → Prop} (rescue : String → α)
    (h : CleanCut c tied whole cut lost) :
    CleanCut c tied (rescued whole rescue) (rescued cut rescue) lost := by
  refine ⟨rescued_cut_short rescue h.toCutShort, ?_⟩
  intro start before running apart
  rw [calls_of_rescued] at apart
  obtain ⟨calls, value, ended, isLost⟩ := h.lost start before
    (fun finished => running ((over_before_of_rescued whole rescue start).mpr finished)) apart
  refine ⟨?_, value, ?_, isLost⟩
  · rw [calls_of_rescued, calls_of_rescued, calls]
  · rw [ending_of_rescued, ended]

theorem CutShort.calls_before {whole cut : Timed κ α} (h : CutShort c whole cut) (start : Nat) :
    startedBefore c (cut start).calls = startedBefore c (whole start).calls := by
  by_cases before : start < c
  · by_cases finished : (whole start).OverBefore c
    · rw [h.kept start before finished]
    · exact (h.broken start before finished).1
  · have late : c ≤ start := Nat.not_lt.mp before
    rw [none_started_before (h.orderly start).1 late, none_started_before (h.orderly_cut start).1 late]

theorem CutShort.ends_by {whole cut : Timed κ α} (h : CutShort c whole cut) : EndsBy c cut := by
  intro start
  by_cases before : start < c
  · by_cases finished : (whole start).OverBefore c
    · obtain ⟨t, ended, soon⟩ := finished
      have later := ((h.orderly start).2 t ended).1
      rw [h.kept start before ⟨t, ended, soon⟩]
      exact ⟨t, ended, later, by omega⟩
    · exact ⟨c, (h.broken start before finished).2, by omega, by omega⟩
  · exact ⟨start, h.idle start (by omega), by omega, by omega⟩

theorem CutShort.called_by {whole cut : Timed κ α} (h : CutShort c whole cut) (start : Nat) :
    ∀ call ∈ (cut start).calls, call.1 ≤ max start c := by
  obtain ⟨t, ended, _, bound⟩ := h.ends_by start
  intro call member
  exact Nat.le_trans (((h.orderly_cut start).2 t ended).2 call member) bound

theorem together_ended_iff {activity : Timed κ α} {rest : List (Timed κ α)} {start t : Nat}
    (safe : NeverCrashes activity) (others : NeverCrashes (together rest)) :
    (together (activity :: rest) start).ending.instant? = some t ↔
      ∃ u v, (activity start).ending.instant? = some u ∧
        (together rest start).ending.instant? = some v ∧ t = max u v := by
  rw [together_cons]
  cases first : (activity start).ending with
  | returned u value =>
    cases second : (together rest start).ending with
    | returned v values => simp [Ending.instant?, eq_comm]
    | crashed v reason => exact absurd second (others start v reason)
    | pending => simp [Ending.instant?]
  | crashed u reason => exact absurd first (safe start u reason)
  | pending =>
    cases second : (together rest start).ending with
    | returned v values => simp [Ending.instant?]
    | crashed v reason => exact absurd second (others start v reason)
    | pending => simp [Ending.instant?]

theorem cons_together_orderly {activity : Timed κ α} {rest : List (Timed κ α)}
    (first : Orderly activity) (others : Orderly (together rest)) (safe : NeverCrashes activity)
    (othersSafe : NeverCrashes (together rest)) : Orderly (together (activity :: rest)) := by
  intro start
  constructor
  · intro call member
    rcases List.mem_append.mp member with own | other
    · exact (first start).1 call own
    · exact (others start).1 call other
  · intro t ended
    obtain ⟨u, v, ended₁, ended₂, rfl⟩ := (together_ended_iff safe othersSafe).mp ended
    obtain ⟨later₁, bounded₁⟩ := (first start).2 u ended₁
    obtain ⟨later₂, bounded₂⟩ := (others start).2 v ended₂
    refine ⟨by omega, ?_⟩
    intro call member
    rcases List.mem_append.mp member with own | other
    · have := bounded₁ call own
      omega
    · have := bounded₂ call other
      omega

theorem together_cut_short {wholes cuts : List (Timed κ α)}
    (each : List.Forall₂ (CutShort c) wholes cuts) (safe : ∀ whole ∈ wholes, NeverCrashes whole)
    (safeCut : ∀ cut ∈ cuts, NeverCrashes cut) :
    CutShort c (together wholes) (together cuts) := by
  -- The rest of the list counts as one activity, which is cut as the head is.
  induction each with
  | nil => exact pure_cut_short []
  | @cons whole cut wholes cuts first _ ih =>
    obtain ⟨firstSafe, restSafe⟩ := List.forall_mem_cons.mp safe
    obtain ⟨firstSafeCut, restSafeCut⟩ := List.forall_mem_cons.mp safeCut
    have rest := ih restSafe restSafeCut
    have othersSafe := together_never_crashes restSafe
    have othersSafeCut := together_never_crashes restSafeCut
    constructor
    · exact cons_together_orderly first.orderly rest.orderly firstSafe othersSafe
    · exact cons_together_orderly first.orderly_cut rest.orderly_cut firstSafeCut othersSafeCut
    · rintro start before ⟨t, ended, soon⟩
      obtain ⟨u, v, ended₁, ended₂, rfl⟩ := (together_ended_iff firstSafe othersSafe).mp ended
      have same₁ := first.kept start before ⟨u, ended₁, by omega⟩
      have same₂ := rest.kept start before ⟨v, ended₂, by omega⟩
      simp only [together, same₁, same₂]
    · intro start before running
      constructor
      · change startedBefore c ((cut start).calls ++ (together cuts start).calls) =
          startedBefore c ((whole start).calls ++ (together wholes start).calls)
        rw [started_before_append, started_before_append, first.calls_before start,
          rest.calls_before start]
      · obtain ⟨u, ended₁, _, bound₁⟩ := first.ends_by start
        obtain ⟨v, ended₂, _, bound₂⟩ := rest.ends_by start
        apply (together_ended_iff firstSafeCut othersSafeCut).mpr
        refine ⟨u, v, ended₁, ended₂, ?_⟩
        by_cases soon₁ : (whole start).OverBefore c
        · have still : ¬ (together wholes start).OverBefore c := by
            rintro ⟨y, done₂, soon₂⟩
            obtain ⟨x, done₁, soon₁⟩ := soon₁
            exact running ⟨max x y, (together_ended_iff firstSafe othersSafe).mpr
              ⟨x, y, done₁, done₂, rfl⟩, by omega⟩
          cases ended₂.symm.trans (rest.broken start before still).2
          omega
        · cases ended₁.symm.trans (first.broken start before soon₁).2
          omega
    · intro start since
      exact (together_ended_iff firstSafeCut othersSafeCut).mpr
        ⟨start, start, first.idle start since, rest.idle start since, (Nat.max_self _).symm⟩

end Cut

end Timed

theorem before_of_early {α : Type} {ending : Ending α} {t c : Nat} (value : α)
    (ended : ending.instant? = some t) (early : t < c) : ending.before (some c) value = ending := by
  simp [Ending.before, ended, early]

theorem before_of_late {α : Type} {ending : Ending α} {c : Nat} (value : α)
    (late : ∀ t, ending.instant? = some t → c ≤ t) :
    ending.before (some c) value = .returned c value := by
  unfold Ending.before
  cases ended : ending.instant? with
  | none => rfl
  | some t =>
    have := late t ended
    simp only [ite_eq_right_iff]
    omega

theorem before_of_meet {α : Type} (ending : Ending α) (a b : Token) (value : α) :
    ending.before (a.meet b).cancelledAt value =
      (ending.before a.cancelledAt value).before b.cancelledAt value := by
  obtain ⟨_ | x⟩ := a
  · rfl
  obtain ⟨_ | y⟩ := b
  · rfl
  change ending.before (some (min x y)) value = (ending.before (some x) value).before (some y) value
  -- What is over before the first token leaves the second one to decide, as if it were alone.
  by_cases early : ∃ t, ending.instant? = some t ∧ t < x
  · obtain ⟨t, ended, soon⟩ := early
    rw [before_of_early value ended soon]
    by_cases soon' : t < y
    · rw [before_of_early value ended soon', before_of_early value ended (by omega)]
    · have atMost : min x y = y := by omega
      rw [atMost]
  · have late : ∀ t, ending.instant? = some t → x ≤ t := by
      intro t ended
      by_contra soon
      exact early ⟨t, ended, by omega⟩
    rw [before_of_late value late]
    by_cases first : x < y
    · have atMost : min x y = x := by omega
      rw [atMost, before_of_late value late]
      exact (before_of_early value rfl first).symm
    · have atMost : min x y = y := by omega
      have later : ∀ t, ending.instant? = some t → y ≤ t := by
        intro t ended
        have := late t ended
        omega
      rw [atMost, before_of_late value later]
      exact (before_of_late value fun t ended => by cases ended; omega).symm

theorem before_ends_since_either {α : Type} {ending : Ending α} {cut : Option Nat} {value : α}
    {t : Nat} (ended : (ending.before cut value).instant? = some t) :
    ending.instant? = some t ∨ cut = some t := by
  cases cut with
  | none => exact Or.inl ended
  | some c =>
    by_cases early : ∃ u, ending.instant? = some u ∧ u < c
    · obtain ⟨u, own, soon⟩ := early
      rw [before_of_early value own soon] at ended
      exact Or.inl ended
    · rw [before_of_late value (by
        intro u own
        by_contra soon
        exact early ⟨u, own, by omega⟩)] at ended
      cases ended
      exact Or.inr rfl

theorem cancelled_meet (a b : Token) (t : Nat) :
    (a.meet b).isCancelled t = (a.isCancelled t || b.isCancelled t) := by
  obtain ⟨_ | x⟩ := a
  · rfl
  obtain ⟨_ | y⟩ := b
  · simp [Token.meet, Token.isCancelled]
  · change decide (min x y ≤ t) = (decide (x ≤ t) || decide (y ≤ t))
    rw [← Bool.decide_or]
    exact decide_eq_decide.mpr (by omega)

theorem cancelled_iff {token : Token} {t : Nat} :
    token.isCancelled t = true ↔ ∃ e, token.cancelledAt = some e ∧ e ≤ t := by
  obtain ⟨_ | x⟩ := token
  · simp [Token.isCancelled]
  · simp [Token.isCancelled]

theorem cancelled_from_iff {c t : Nat} : (Token.cancelledFrom c).isCancelled t = true ↔ c ≤ t :=
  decide_eq_true_iff

section Request

variable {κ α : Type} (token : Token) (limit : Option Nat) (call : κ) (reply : Nat → Reply α)

/-- What a request comes to when it is made and the token does not interfere. -/
def undisturbed (start : Nat) : Ending (Response α) :=
  ((reply start).ending start).within (limit.map (start + ·)) .timedOut

theorem undisturbed_ends_after_start (start t : Nat)
    (ended : (undisturbed limit reply start).instant? = some t) : start ≤ t :=
  within_ends_after_start _ start limit _ (fun _ => reply_ends_after_start (reply start)) t ended

theorem request_of_cancelled {start : Nat} (cancelled : token.isCancelled start = true) :
    request token limit call reply start = ⟨[], .returned start .cancelled⟩ := by
  unfold request
  rw [if_pos cancelled]

theorem request_at_once {start : Nat} {tied : Nat × κ → Prop}
    (cancelled : token.isCancelled start = true) :
    Timed.AtOnce start tied (fun response => response = .cancelled)
      (request token limit call reply) := by
  intro _
  rw [request_of_cancelled token limit call reply cancelled]
  exact ⟨.cancelled, rfl, rfl⟩

theorem request_of_open {start : Nat} (isOpen : token.isCancelled start = false) :
    request token limit call reply start =
      ⟨[(start, call)], (undisturbed limit reply start).before token.cancelledAt .cancelled⟩ := by
  unfold request
  rw [if_neg (by simp [isOpen])]
  rfl

theorem request_orderly : Timed.Orderly (request token limit call reply) := by
  intro start
  cases cancelled : token.isCancelled start with
  | true =>
    rw [request_of_cancelled token limit call reply cancelled]
    constructor
    · intro other member
      cases member
    · intro t ended
      cases ended
      exact ⟨Nat.le_refl _, fun other member => by cases member⟩
  | false =>
    rw [request_of_open token limit call reply cancelled]
    have only : ∀ other ∈ [(start, call)], other.1 = start := by simp
    constructor
    · intro other member
      exact Nat.le_of_eq (only other member).symm
    · intro t ended
      have later : start ≤ t := by
        rcases before_ends_since_either ended with own | atCut
        · exact undisturbed_ends_after_start limit reply start t own
        · simp only [Token.isCancelled, atCut, decide_eq_false_iff_not] at cancelled
          omega
      exact ⟨later, fun other member => by rw [only other member]; exact later⟩

theorem request_cut (c : Nat) (tied : Nat × κ → Prop) :
    Timed.CleanCut c tied (request token limit call reply)
      (request (token.meet (.cancelledFrom c)) limit call reply)
      fun _ response => response = .cancelled := by
  have opens : ∀ start < c, token.isCancelled start = false →
      (token.meet (.cancelledFrom c)).isCancelled start = false := by
    intro start before isOpen
    have := mt cancelled_from_iff.mp (Nat.not_le.mpr before)
    rw [cancelled_meet, isOpen, Bool.false_or]
    exact Bool.eq_false_iff.mpr this
  have broken : ∀ start < c, ¬ (request token limit call reply start).OverBefore c →
      (request (token.meet (.cancelledFrom c)) limit call reply start).calls =
        startedBefore c (request token limit call reply start).calls ∧
      (request (token.meet (.cancelledFrom c)) limit call reply start).ending =
        .returned c .cancelled := by
    intro start before running
    cases cancelled : token.isCancelled start with
    | true =>
      rw [request_of_cancelled token limit call reply cancelled] at running
      exact absurd ⟨start, rfl, before⟩ running
    | false =>
      rw [request_of_open token limit call reply cancelled] at running ⊢
      have late : ∀ t, ((undisturbed limit reply start).before token.cancelledAt
          .cancelled).instant? = some t → c ≤ t := by
        intro t finished
        by_contra soon
        exact running ⟨t, finished, by omega⟩
      rw [request_of_open _ limit call reply (opens start before cancelled), before_of_meet,
        Token.cancelledFrom, before_of_late .cancelled late]
      exact ⟨(Timed.all_started_before (by simp) before).symm, rfl⟩
  refine ⟨⟨request_orderly token limit call reply, request_orderly _ limit call reply, ?_, ?_, ?_⟩,
    fun start before running _ => ?_⟩
  · rintro start before ⟨t, finished, soon⟩
    cases cancelled : token.isCancelled start with
    | true =>
      rw [request_of_cancelled token limit call reply cancelled,
        request_of_cancelled _ limit call reply (by rw [cancelled_meet, cancelled, Bool.true_or])]
    | false =>
      rw [request_of_open token limit call reply cancelled] at finished ⊢
      rw [request_of_open _ limit call reply (opens start before cancelled), before_of_meet,
        Token.cancelledFrom, before_of_early .cancelled finished soon]
  · intro start before running
    obtain ⟨calls, ended⟩ := broken start before running
    rw [calls, ended]
    exact ⟨List.filter_eq_self.mpr fun call member => (List.mem_filter.mp member).2, rfl⟩
  · intro start since
    rw [request_of_cancelled _ limit call reply
      (by rw [cancelled_meet, cancelled_from_iff.mpr since, Bool.or_true])]
    rfl
  · obtain ⟨calls, ended⟩ := broken start before running
    exact ⟨calls, .cancelled, ended, rfl⟩

end Request
end HostHealth
