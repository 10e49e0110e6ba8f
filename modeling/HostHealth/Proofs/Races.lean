import HostHealth.Proofs.Cuts

/- Requests that race with their token. A request that is not ahead is like any other. One that is
   ahead is cut as any other is, except that at the instant of the cut both can win. -/
namespace HostHealth

theorem within_of_timely {α : Type} {ending : Ending α} {t d : Nat} (late : α)
    (ended : ending.instant? = some t) (inTime : t ≤ d) :
    ending.within (some d) late = ending := by
  simp [Ending.within, ended, inTime]

theorem within_of_overdue {α : Type} {ending : Ending α} {d : Nat} (late : α)
    (overdue : ∀ t, ending.instant? = some t → d < t) :
    ending.within (some d) late = .returned d late := by
  unfold Ending.within
  cases ended : ending.instant? with
  | none => rfl
  | some t => simp [Nat.not_le.mpr (overdue t ended)]

theorem within_timely_or_overdue {α : Type} (ending : Ending α) (d : Nat) (late : α) :
    ending.within (some d) late = ending ∧ (∃ t, ending.instant? = some t ∧ t ≤ d) ∨
      ending.within (some d) late = .returned d late ∧
        ∀ t, ending.instant? = some t → d < t := by
  by_cases timely : ∃ t, ending.instant? = some t ∧ t ≤ d
  · obtain ⟨t, ended, inTime⟩ := timely
    exact Or.inl ⟨within_of_timely late ended inTime, t, ended, inTime⟩
  · have overdue : ∀ t, ending.instant? = some t → d < t := by
      intro t ended
      by_contra inTime
      exact timely ⟨t, ended, Nat.not_lt.mp inTime⟩
    exact Or.inr ⟨within_of_overdue late overdue, overdue⟩

theorem within_ends_at {α : Type} {ending : Ending α} {d : Nat} (late : α)
    (notEarly : ∀ t, ending.instant? = some t → d ≤ t) :
    (ending.within (some d) late).instant? = some d := by
  rcases within_timely_or_overdue ending d late with ⟨same, t, ended, inTime⟩ | ⟨same, _⟩
  · rw [same, ended, Nat.le_antisymm inTime (notEarly t ended)]
  · rw [same]
    rfl

theorem within_ends_since_either {α : Type} {ending : Ending α} {deadline : Option Nat} {late : α}
    {t : Nat} (ended : (ending.within deadline late).instant? = some t) :
    ending.instant? = some t ∨ deadline = some t := by
  cases deadline with
  | none => exact Or.inl ended
  | some d =>
    rcases within_timely_or_overdue ending d late with ⟨same, _⟩ | ⟨same, _⟩
    · rw [same] at ended
      exact Or.inl ended
    · rw [same] at ended
      cases ended
      exact Or.inr rfl

theorem within_kept {α : Type} {ending : Ending α} {deadline : Option Nat} {late kept : α} {t : Nat}
    (other : late ≠ kept) (returned : ending.within deadline late = .returned t kept) :
    ending = .returned t kept := by
  cases deadline with
  | none => exact returned
  | some d =>
    rcases within_timely_or_overdue ending d late with ⟨same, _⟩ | ⟨same, _⟩
    · exact same.symm.trans returned
    · cases same.symm.trans returned
      exact absurd rfl other

theorem within_of_cut {α : Type} {ending : Ending α} {deadline : Option Nat} {late : α} {t : Nat}
    (other : ending.instant? ≠ some t)
    (ended : (ending.within deadline late).instant? = some t) :
    ending.within deadline late = .returned t late := by
  cases deadline with
  | none => exact absurd ended other
  | some d =>
    rcases within_timely_or_overdue ending d late with ⟨same, _⟩ | ⟨same, _⟩
    · rw [same] at ended
      exact absurd ended other
    · rw [same] at ended
      cases ended
      exact same

/-- The two ways to be given up differ only in what comes just then. -/
theorem within_eq_before {α : Type} {ending : Ending α} {c : Nat} (value : α)
    (notTied : ending.instant? ≠ some c) :
    ending.within (some c) value = ending.before (some c) value := by
  unfold Ending.within Ending.before
  cases ended : ending.instant? with
  | none => rfl
  | some t =>
    have other : t ≠ c := by
      rintro rfl
      exact notTied ended
    have inTime : t ≤ c ↔ t < c := by omega
    simp only [inTime]

theorem within_of_meet {α : Type} (ending : Ending α) (a b : Token) (start : Nat) (value : α) :
    ending.within ((a.meet b).cancelledAt.map (max start)) value =
      (ending.within (a.cancelledAt.map (max start)) value).within
        (b.cancelledAt.map (max start)) value := by
  obtain ⟨_ | x⟩ := a
  · rfl
  obtain ⟨_ | y⟩ := b
  · rfl
  change ending.within (some (max start (min x y))) value =
    (ending.within (some (max start x)) value).within (some (max start y)) value
  rcases within_timely_or_overdue ending (max start x) value with
    ⟨same, t, ended, inTime⟩ | ⟨same, overdue⟩
  · rw [same]
    by_cases inTime' : t ≤ max start y
    · rw [within_of_timely value ended inTime', within_of_timely value ended (by omega)]
    · have atMost : max start (min x y) = max start y := by omega
      rw [atMost]
  · rw [same]
    have given : ending.within (some (max start (min x y))) value =
        .returned (max start (min x y)) value := by
      apply within_of_overdue
      intro t ended
      have := overdue t ended
      omega
    rw [given]
    by_cases first : max start x ≤ max start y
    · rw [within_of_timely value rfl first]
      congr 1
      omega
    · rw [within_of_overdue value (by intro t ended; cases ended; omega)]
      congr 1
      omega

section Race

variable {κ α : Type} (token : Token) (limit : Option Nat) (call : κ) (reply : Nat → Reply α)
  (ahead : Nat → Bool) {start : Nat}

theorem raced_of_behind (behind : ahead start = false) :
    raced token ahead limit call reply start = request token limit call reply start := by
  simp [raced, behind]

theorem raced_of_ahead (first : ahead start = true) :
    raced token ahead limit call reply start =
      ⟨[(start, call)], (undisturbed limit reply start).within
        (token.cancelledAt.map (max start)) .cancelled⟩ := by
  simp [raced, first, undisturbed]

theorem calls_of_ahead (first : ahead start = true) :
    (raced token ahead limit call reply start).calls = [(start, call)] := by
  rw [raced_of_ahead token limit call reply ahead first]

theorem raced_cut_of_ahead (c : Nat) (first : ahead start = true) :
    raced (token.meet (.cancelledFrom c)) ahead limit call reply start =
      ⟨[(start, call)], (raced token ahead limit call reply start).ending.within
        (some (max start c)) .cancelled⟩ := by
  rw [raced_of_ahead _ limit call reply ahead first, raced_of_ahead _ limit call reply ahead first,
    within_of_meet]
  rfl

theorem raced_of_never :
    raced .never ahead limit call reply = request .never limit call reply := by
  funext start
  cases first : ahead start with
  | false => exact raced_of_behind _ limit call reply ahead first
  | true =>
    rw [raced_of_ahead _ limit call reply ahead first]
    rfl

theorem raced_orderly : Timed.Orderly (raced token ahead limit call reply) := by
  intro start
  cases first : ahead start with
  | false =>
    rw [raced_of_behind token limit call reply ahead first]
    exact request_orderly token limit call reply start
  | true =>
    rw [raced_of_ahead token limit call reply ahead first]
    have only : ∀ other ∈ [(start, call)], other.1 = start := by simp
    constructor
    · intro other member
      exact Nat.le_of_eq (only other member).symm
    · intro t ended
      have later : start ≤ t := by
        rcases within_ends_since_either ended with own | atCut
        · exact undisturbed_ends_after_start limit reply start t own
        · obtain ⟨cut, _, rfl⟩ := Option.map_eq_some_iff.mp atCut
          exact Nat.le_max_left _ _
      exact ⟨later, fun other member => by rw [only other member]; exact later⟩

theorem raced_ends_by {cut : Nat} (cancelled : token.cancelledAt = some cut) :
    Timed.EndsBy cut (raced token ahead limit call reply) := by
  intro start
  cases first : ahead start with
  | false =>
    rw [raced_of_behind token limit call reply ahead first]
    exact request_ends_by cancelled limit call reply start
  | true =>
    rw [raced_of_ahead token limit call reply ahead first, cancelled]
    rcases within_timely_or_overdue (undisturbed limit reply start) (max start cut)
      Response.cancelled with ⟨same, t, ended, inTime⟩ | ⟨same, _⟩
    · have begun := undisturbed_ends_after_start limit reply start t ended
      exact ⟨t, (congrArg Ending.instant? same).trans ended, begun, inTime⟩
    · exact ⟨max start cut, congrArg Ending.instant? same, Nat.le_max_left _ _, Nat.le_refl _⟩

/-- An instant at which the token may be cancelled is tied with a request that is ahead and that
    would come to an end just then, or at its start if it is made later. -/
def TiedWith (c : Nat) (tied : Nat × κ → Prop) : Prop :=
  ∀ start, ahead start = true →
    (undisturbed limit reply start).instant? = some (max start c) → tied (start, call)

theorem raced_at_once {c : Nat} {tied : Nat × κ → Prop}
    (ties : TiedWith limit call reply ahead c tied) (cancelled : token.isCancelled start = true)
    (late : c ≤ start) :
    Timed.AtOnce start tied (fun response => response = .cancelled)
      (raced token ahead limit call reply) := by
  intro apart
  cases first : ahead start with
  | false =>
    rw [raced_of_behind token limit call reply ahead first,
      request_of_cancelled token limit call reply cancelled]
    exact ⟨.cancelled, rfl, rfl⟩
  | true =>
    rw [raced_of_ahead token limit call reply ahead first] at apart ⊢
    obtain ⟨cut, own, past⟩ := cancelled_iff.mp cancelled
    refine ⟨.cancelled, ?_, rfl⟩
    rw [own]
    change Ending.within (some (max start cut)) _ _ = _
    rw [Nat.max_eq_left past]
    apply within_of_overdue
    intro t ended
    have later := undisturbed_ends_after_start limit reply start t ended
    have other : t ≠ start := by
      rintro rfl
      exact apart (t, call) List.mem_cons_self
        (ties t first (by rw [Nat.max_eq_left late]; exact ended))
    omega

/-- The whole request ends at the cut only when it is cancelled at that very instant itself. -/
theorem lost_of_ahead {c : Nat} (first : ahead start = true) (before : start < c)
    (running : ¬ (raced token ahead limit call reply start).OverBefore c)
    (notTied : (undisturbed limit reply start).instant? ≠ some c) :
    raced (token.meet (.cancelledFrom c)) ahead limit call reply start =
      ⟨[(start, call)], .returned c .cancelled⟩ := by
  rw [raced_cut_of_ahead token limit call reply ahead c first,
    Nat.max_eq_right (Nat.le_of_lt before)]
  congr 1
  rcases within_timely_or_overdue (raced token ahead limit call reply start).ending c
    Response.cancelled with ⟨same, t, ended, inTime⟩ | ⟨same, _⟩
  · have late : ¬ t < c := fun soon => running ⟨t, ended, soon⟩
    cases Nat.le_antisymm inTime (Nat.not_lt.mp late)
    refine same.trans ?_
    rw [raced_of_ahead token limit call reply ahead first] at ended ⊢
    exact within_of_cut notTied ended
  · exact same

theorem raced_cut {c : Nat} {tied : Nat × κ → Prop}
    (ties : TiedWith limit call reply ahead c tied) :
    Timed.CleanCut c tied (raced token ahead limit call reply)
      (raced (token.meet (.cancelledFrom c)) ahead limit call reply)
      fun _ response => response = .cancelled := by
  have plain := request_cut token limit call reply c tied
  refine ⟨⟨raced_orderly token limit call reply ahead, raced_orderly _ limit call reply ahead,
    ?_, ?_, ?_⟩, ?_⟩
  · rintro start before ⟨t, finished, soon⟩
    cases first : ahead start with
    | false =>
      rw [raced_of_behind token limit call reply ahead first] at finished ⊢
      rw [raced_of_behind _ limit call reply ahead first]
      exact plain.kept start before ⟨t, finished, soon⟩
    | true =>
      rw [raced_cut_of_ahead token limit call reply ahead c first,
        within_of_timely .cancelled finished (by omega),
        ← calls_of_ahead token limit call reply ahead first]
  · intro start before running
    cases first : ahead start with
    | false =>
      rw [raced_of_behind token limit call reply ahead first] at running ⊢
      rw [raced_of_behind _ limit call reply ahead first]
      exact plain.broken start before running
    | true =>
      have atCut : max start c = c := by omega
      rw [raced_cut_of_ahead token limit call reply ahead c first,
        calls_of_ahead token limit call reply ahead first, atCut]
      exact ⟨rfl, within_ends_at .cancelled fun t finished =>
        Nat.not_lt.mp fun soon => running ⟨t, finished, soon⟩⟩
  · intro start since
    cases first : ahead start with
    | false =>
      rw [raced_of_behind _ limit call reply ahead first]
      exact plain.idle start since
    | true =>
      have atStart : max start c = start := by omega
      rw [raced_cut_of_ahead token limit call reply ahead c first, atStart]
      exact within_ends_at .cancelled fun t finished =>
        ((raced_orderly token limit call reply ahead start).2 t finished).1
  · intro start before running apart
    cases first : ahead start with
    | false =>
      rw [raced_of_behind token limit call reply ahead first] at running apart ⊢
      rw [raced_of_behind _ limit call reply ahead first]
      exact plain.lost start before running apart
    | true =>
      rw [calls_of_ahead token limit call reply ahead first] at apart ⊢
      have notTied : (undisturbed limit reply start).instant? ≠ some c := by
        intro ended
        exact apart (start, call) (List.mem_filter.mpr ⟨List.mem_cons_self, by simpa using before⟩)
          (ties start first (by rw [Nat.max_eq_right (Nat.le_of_lt before)]; exact ended))
      have lost := lost_of_ahead token limit call reply ahead first before running notTied
      rw [lost]
      exact ⟨(Timed.all_started_before (by simp) before).symm, .cancelled, rfl, rfl⟩

end Race

end HostHealth
