import HostHealth.Inspector.Basic

/- The cooldown forgets what has run out whenever a host is let in. Beside it stands a record that
   forgets nothing, and as long as time does not run backwards both give the same verdicts. -/
namespace HostHealth.Inspector

open Net

structure Arrival where
  now : Nat
  host : Host
  caller : Token
  world : World

namespace Arrival

def key (arrival : Arrival) : PublicKey := arrival.host.publicKey

def InOrder (arrivals : List Arrival) : Prop := arrivals.Pairwise fun a b => a.now ≤ b.now

end Arrival

section Runs

variable (self : Inspector)

def refusal? (arrival : Arrival) : Option Refusal :=
  match (self.ask arrival.world arrival.now arrival.host arrival.caller).1 with
  | .error refusal => some refusal
  | .ok _ => none

def after (arrival : Arrival) : Inspector :=
  (self.ask arrival.world arrival.now arrival.host arrival.caller).2

def serve (arrivals : List Arrival) : Inspector := arrivals.foldl after self

end Runs

def verdicts (self : Inspector) : List Arrival → List (Arrival × Option Refusal)
  | [] => []
  | arrival :: rest => (arrival, self.refusal? arrival) :: (self.after arrival).verdicts rest

def admitted (self : Inspector) (arrivals : List Arrival) : List Arrival :=
  ((self.verdicts arrivals).filter fun v => v.2.isNone).map Prod.fst

section Record

variable (window : Nat) (record : List Arrival)

def lastOf (key : PublicKey) : Option Arrival := record.reverse.find? fun a => a.key = key

def recordedWait (now : Nat) (key : PublicKey) : Option Nat :=
  (lastOf record key).bind fun last =>
    if now < last.now + window then some (last.now + window - now) else none

def recordedVerdict (arrival : Arrival) : Option Refusal :=
  (recordedWait window record arrival.now arrival.key).map .onCooldown

def recorded (arrival : Arrival) : List Arrival :=
  if (recordedVerdict window record arrival).isNone then record ++ [arrival] else record

end Record

/-- The verdicts of a run when nothing but the record decides. -/
def recordedVerdicts (window : Nat) (record : List Arrival) :
    List Arrival → List (Arrival × Option Refusal)
  | [] => []
  | arrival :: rest =>
    (arrival, recordedVerdict window record arrival)
      :: recordedVerdicts window (recorded window record arrival) rest

/-- The cooldown knows the last admission of every host whose window is still open, and
    nothing that is not a last admission. What it has no entry for has run out by `now`. -/
structure Remembers (window now : Nat) (record : List Arrival) (cooldown : Cooldown) : Prop where
  only_last : ∀ key expiry, (key, expiry) ∈ cooldown.expiries →
    ∃ last, lastOf record key = some last ∧ expiry = last.now + window
  every_open : ∀ key last, lastOf record key = some last → now < last.now + window →
    (key, last.now + window) ∈ cooldown.expiries

structure Tracks (inspector : Inspector) (record : List Arrival) (now : Nat) : Prop where
  is_open : inspector.closedAt = none
  remembers : Remembers inspector.policy.cooldown now record inspector.cooldown

theorem last_of_appended (record : List Arrival) (arrival : Arrival) (key : PublicKey) :
    lastOf (record ++ [arrival]) key =
      if arrival.key = key then some arrival else lastOf record key := by
  unfold lastOf
  rw [List.reverse_append, List.reverse_singleton, List.singleton_append, List.find?_cons]
  by_cases same : arrival.key = key
  · simp [same]
  · simp [same]

theorem last_of_member {record : List Arrival} {key : PublicKey} {last : Arrival}
    (found : lastOf record key = some last) : last ∈ record ∧ last.key = key := by
  constructor
  · exact List.mem_reverse.mp (List.mem_of_find?_eq_some found)
  · simpa using List.find?_some found

theorem latest_found (newestFirst : List Arrival)
    (sorted : newestFirst.Pairwise fun a b => b.now ≤ a.now) {a : Arrival}
    (member : a ∈ newestFirst) :
    ∃ last, newestFirst.find? (fun b => b.key = a.key) = some last ∧ a.now ≤ last.now := by
  induction newestFirst with
  | nil => simp at member
  | cons first rest ih =>
    obtain ⟨above, sortedRest⟩ := List.pairwise_cons.mp sorted
    by_cases same : first.key = a.key
    · refine ⟨first, by simp [same], ?_⟩
      rcases List.mem_cons.mp member with rfl | later
      · exact Nat.le_refl _
      · exact above a later
    · rcases List.mem_cons.mp member with rfl | later
      · exact absurd rfl same
      · obtain ⟨last, found, bound⟩ := ih sortedRest later
        exact ⟨last, by simpa [List.find?_cons, same] using found, bound⟩

theorem last_of_is_latest {record : List Arrival} (ordered : Arrival.InOrder record)
    {a : Arrival} (member : a ∈ record) :
    ∃ last, lastOf record a.key = some last ∧ a.now ≤ last.now := by
  apply latest_found
  · exact List.pairwise_reverse.mpr ordered
  · exact List.mem_reverse.mpr member

theorem lookup_finds_member {α β : Type} [DecidableEq α] {entries : List (α × β)} {key : α}
    {value : β} (member : (key, value) ∈ entries) :
    ∃ found, entries.lookup key = some found := by
  apply Option.isSome_iff_exists.mp
  exact List.lookup_isSome_iff.mpr ⟨(key, value), member, by simp⟩

theorem member_of_lookup {α β : Type} [DecidableEq α] {entries : List (α × β)} {key : α}
    {value : β} (found : entries.lookup key = some value) : (key, value) ∈ entries := by
  obtain ⟨front, back, rfl, _⟩ := List.lookup_eq_some_iff.mp found
  simp

theorem remaining_eq_recorded_wait {window now : Nat} {record : List Arrival}
    {cooldown : Cooldown} (h : Remembers window now record cooldown) {t : Nat} (later : now ≤ t)
    (key : PublicKey) : cooldown.remaining t key = recordedWait window record t key := by
  unfold Cooldown.remaining recordedWait
  cases entry : cooldown.expiries.lookup key with
  | some expiry =>
    obtain ⟨last, found, rfl⟩ := h.only_last key expiry (member_of_lookup entry)
    simp [found]
  | none =>
    cases found : lastOf record key with
    | none => rfl
    | some last =>
      -- A window that were still open would have kept its entry.
      have expired : ¬ t < last.now + window := by
        intro stillOpen
        obtain ⟨expiry, entered⟩ :=
          lookup_finds_member (h.every_open key last found (by omega))
        rw [entry] at entered
        cases entered
      simp [expired]

theorem nothing_remembered (window now : Nat) : Remembers window now [] .empty := by
  constructor
  · intro key expiry member
    simp [Cooldown.empty] at member
  · intro key last found
    simp [lastOf] at found

theorem remembers_later {window now t : Nat} {record : List Arrival} {cooldown : Cooldown}
    (h : Remembers window now record cooldown) (later : now ≤ t) :
    Remembers window t record cooldown :=
  ⟨h.only_last, fun key last found stillOpen => h.every_open key last found (by omega)⟩

theorem remembers_admission {window now : Nat} {record : List Arrival} {cooldown : Cooldown}
    (h : Remembers window now record cooldown) (arrival : Arrival) (later : now ≤ arrival.now)
    (free : cooldown.remaining arrival.now arrival.key = none) :
    Remembers window arrival.now (record ++ [arrival])
      ⟨(arrival.key, arrival.now + window)
        :: cooldown.expiries.filter fun e => arrival.now < e.2⟩ := by
  -- The step of a host that is let in. What the purge drops has run out, and the only entry that
  -- the new one could contradict has run out too, or the host would have had to wait.
  rw [remaining_eq_recorded_wait h later] at free
  constructor
  · intro key expiry member
    rw [last_of_appended]
    rcases List.mem_cons.mp member with new | old
    · obtain ⟨rfl, rfl⟩ := Prod.mk.inj new
      exact ⟨arrival, by simp, rfl⟩
    · obtain ⟨kept, stillOpen⟩ := List.mem_filter.mp old
      obtain ⟨last, found, rfl⟩ := h.only_last key expiry kept
      -- An entry of the same host that is still open would have been a reason to wait.
      have other : arrival.key ≠ key := by
        intro same
        subst same
        simp only [decide_eq_true_eq] at stillOpen
        simp [recordedWait, found, stillOpen] at free
      exact ⟨last, by simpa [other] using found, rfl⟩
  · intro key last found stillOpen
    rw [last_of_appended] at found
    split at found
    · rename_i same
      cases found
      subst same
      exact List.mem_cons_self
    · have member := h.every_open key last found (by omega)
      exact List.mem_cons_of_mem _ (List.mem_filter.mpr ⟨member, by simpa using stillOpen⟩)

theorem refusal_of_open {self : Inspector} (isOpen : self.closedAt = none) (arrival : Arrival) :
    self.refusal? arrival =
      (self.cooldown.remaining arrival.now arrival.key).map .onCooldown := by
  unfold refusal? ask Cooldown.claim Arrival.key
  simp only [isOpen, Option.isSome_none, Bool.false_eq_true, ↓reduceIte]
  cases self.cooldown.remaining arrival.now arrival.host.publicKey with
  | none => rfl
  | some left => rfl

theorem after_refusal {self : Inspector} {arrival : Arrival} {refusal : Refusal}
    (refused : self.refusal? arrival = some refusal) : self.after arrival = self := by
  unfold refusal? ask at refused
  unfold after ask
  cases isClosed : self.closedAt.isSome with
  | true => simp
  | false =>
    cases claimed : self.cooldown.claim self.policy.cooldown arrival.now
        arrival.host.publicKey with
    | error remaining => simp
    | ok cooldown => simp [isClosed, claimed] at refused

theorem after_admission {self : Inspector} (isOpen : self.closedAt = none) {arrival : Arrival}
    (free : self.cooldown.remaining arrival.now arrival.key = none) :
    self.after arrival =
      { self with cooldown :=
          ⟨(arrival.key, arrival.now + self.policy.cooldown)
            :: self.cooldown.expiries.filter fun e => arrival.now < e.2⟩ } := by
  unfold Arrival.key at *
  simp [after, ask, Cooldown.claim, isOpen, free]

theorem policy_after (self : Inspector) (arrival : Arrival) :
    (self.after arrival).policy = self.policy := by
  unfold after ask
  split
  · rfl
  · split <;> rfl

theorem policy_serve (self : Inspector) (arrivals : List Arrival) :
    (self.serve arrivals).policy = self.policy := by
  induction arrivals generalizing self with
  | nil => rfl
  | cons arrival rest ih =>
    rw [← policy_after self arrival]
    exact ih (self.after arrival)

theorem verdict_of_tracked {self : Inspector} {record : List Arrival} {now : Nat}
    (h : self.Tracks record now) (arrival : Arrival) (later : now ≤ arrival.now) :
    self.refusal? arrival = recordedVerdict self.policy.cooldown record arrival := by
  rw [refusal_of_open h.is_open, remaining_eq_recorded_wait h.remembers later]
  rfl

theorem tracks_after {self : Inspector} {record : List Arrival} {now : Nat}
    (h : self.Tracks record now) (arrival : Arrival) (later : now ≤ arrival.now) :
    (self.after arrival).Tracks (recorded self.policy.cooldown record arrival) arrival.now := by
  have verdict := verdict_of_tracked h arrival later
  unfold recorded
  rw [← verdict]
  cases refused : self.refusal? arrival with
  | some refusal =>
    rw [after_refusal refused]
    exact ⟨h.is_open, remembers_later h.remembers later⟩
  | none =>
    have free : self.cooldown.remaining arrival.now arrival.key = none := by
      simpa [refusal_of_open h.is_open] using refused
    rw [after_admission h.is_open free]
    exact ⟨h.is_open, remembers_admission h.remembers arrival later free⟩

theorem tracked_verdicts {self : Inspector} {record : List Arrival} {now : Nat}
    (h : self.Tracks record now) {arrivals : List Arrival}
    (ordered : Arrival.InOrder arrivals) (later : ∀ a ∈ arrivals, now ≤ a.now) :
    self.verdicts arrivals = recordedVerdicts self.policy.cooldown record arrivals := by
  -- Along the run. The record grows with every admission, and `Tracks` goes with it.
  induction arrivals generalizing self record now with
  | nil => rfl
  | cons arrival rest ih =>
    obtain ⟨above, orderedRest⟩ := List.pairwise_cons.mp ordered
    have step := tracks_after h arrival (later arrival List.mem_cons_self)
    have tail := ih step orderedRest above
    rw [policy_after] at tail
    simp only [verdicts, recordedVerdicts, tail,
      verdict_of_tracked h arrival (later arrival List.mem_cons_self)]

theorem arrivals_of_verdicts (self : Inspector) (arrivals : List Arrival) :
    (self.verdicts arrivals).map Prod.fst = arrivals := by
  induction arrivals generalizing self with
  | nil => rfl
  | cons arrival rest ih => simp [verdicts, ih]

theorem admitted_sublist (self : Inspector) (arrivals : List Arrival) :
    (self.admitted arrivals).Sublist arrivals := by
  have h : (self.admitted arrivals).Sublist ((self.verdicts arrivals).map Prod.fst) :=
    List.filter_sublist.map Prod.fst
  rwa [arrivals_of_verdicts] at h

theorem admitted_cons (self : Inspector) (arrival : Arrival) (rest : List Arrival) :
    self.admitted (arrival :: rest) =
      (if (self.refusal? arrival).isNone then [arrival] else [])
        ++ (self.after arrival).admitted rest := by
  unfold admitted
  rw [verdicts, List.filter_cons]
  split
  · rfl
  · rfl

theorem tracks_run {self : Inspector} {record : List Arrival} {now : Nat}
    (h : self.Tracks record now) {arrivals : List Arrival}
    (ordered : Arrival.InOrder arrivals) (later : ∀ a ∈ arrivals, now ≤ a.now)
    {t : Nat} (passed : now ≤ t) (earlier : ∀ a ∈ arrivals, a.now ≤ t) :
    (self.serve arrivals).Tracks (record ++ self.admitted arrivals) t := by
  induction arrivals generalizing self record now with
  | nil =>
    simp only [serve, List.foldl_nil, admitted, verdicts, List.filter_nil, List.map_nil,
      List.append_nil]
    exact ⟨h.is_open, remembers_later h.remembers passed⟩
  | cons arrival rest ih =>
    obtain ⟨above, orderedRest⟩ := List.pairwise_cons.mp ordered
    have next := later arrival List.mem_cons_self
    have step := tracks_after h arrival next
    have tail := ih step orderedRest above (earlier arrival List.mem_cons_self)
      (fun a member => earlier a (List.mem_cons_of_mem _ member))
    have grown : record ++ self.admitted (arrival :: rest) =
        recorded self.policy.cooldown record arrival ++ (self.after arrival).admitted rest := by
      rw [admitted_cons, verdict_of_tracked h arrival next, ← List.append_assoc]
      unfold recorded
      split
      · rfl
      · rw [List.append_nil]
    rw [grown]
    exact tail

theorem opened_tracks_nothing (policy : Policy) (resolver : Dns.Resolver) (begun : Nat)
    (initial : Snapshot) : (opened policy resolver begun initial).Tracks [] 0 :=
  ⟨rfl, nothing_remembered _ _⟩

/-- What a verdict has to do with the admissions before it. -/
structure Decides (window : Nat) (record : List Arrival) (arrival : Arrival)
    (verdict : Option Refusal) : Prop where
  refused_iff : verdict.isSome ↔
    ∃ a ∈ record, a.key = arrival.key ∧ arrival.now < a.now + window
  waits : ∀ refusal, verdict = some refusal → ∃ last left,
    lastOf record arrival.key = some last ∧ refusal = .onCooldown left ∧
    arrival.now + left = last.now + window ∧ 0 < left ∧ left ≤ window
  over_at_end : ∀ last, lastOf record arrival.key = some last →
    arrival.now = last.now + window → verdict = none

theorem recorded_wait_iff {window now left : Nat} {record : List Arrival} {key : PublicKey} :
    recordedWait window record now key = some left ↔
      ∃ last, lastOf record key = some last ∧ now < last.now + window
        ∧ left = last.now + window - now := by
  unfold recordedWait
  rw [Option.bind_eq_some_iff]
  constructor
  · rintro ⟨last, found, wait⟩
    split at wait
    · rename_i stillOpen
      exact ⟨last, found, stillOpen, (Option.some.inj wait).symm⟩
    · cases wait
  · rintro ⟨last, found, stillOpen, rfl⟩
    exact ⟨last, found, by simp [stillOpen]⟩

theorem record_decides {window : Nat} {record : List Arrival} {arrival : Arrival}
    (ordered : Arrival.InOrder record) (before : ∀ a ∈ record, a.now ≤ arrival.now) :
    Decides window record arrival (recordedVerdict window record arrival) := by
  constructor
  · unfold recordedVerdict
    rw [Option.isSome_map, Option.isSome_iff_exists]
    constructor
    · rintro ⟨left, wait⟩
      obtain ⟨last, found, stillOpen, _⟩ := recorded_wait_iff.mp wait
      obtain ⟨member, same⟩ := last_of_member found
      exact ⟨last, member, same, stillOpen⟩
    · rintro ⟨a, member, same, stillOpen⟩
      obtain ⟨last, found, bound⟩ := last_of_is_latest ordered member
      rw [same] at found
      exact ⟨_, recorded_wait_iff.mpr ⟨last, found, by omega, rfl⟩⟩
  · intro refusal verdict
    obtain ⟨left, wait, rfl⟩ := Option.map_eq_some_iff.mp verdict
    obtain ⟨last, found, stillOpen, rfl⟩ := recorded_wait_iff.mp wait
    have passed := before last (last_of_member found).1
    exact ⟨last, _, found, rfl, by omega, by omega, by omega⟩
  · intro last found atEnd
    unfold recordedVerdict recordedWait
    simp [found, atEnd]

theorem last_of_recorded (window : Nat) (record : List Arrival) (arrival : Arrival)
    (key : PublicKey) :
    lastOf (recorded window record arrival) key =
      if arrival.key = key ∧ (recordedVerdict window record arrival).isNone then some arrival
      else lastOf record key := by
  unfold recorded
  by_cases free : (recordedVerdict window record arrival).isNone
  · simp [free, last_of_appended]
  · simp [free]

theorem recorded_verdicts_of_one_key (window : Nat) (key : PublicKey)
    (arrivals left right : List Arrival) (agree : lastOf left key = lastOf right key) :
    (recordedVerdicts window left arrivals).filter (fun v => v.1.key = key) =
      recordedVerdicts window right (arrivals.filter fun a => a.key = key) := by
  induction arrivals generalizing left right with
  | nil => rfl
  | cons arrival rest ih =>
    by_cases same : arrival.key = key
    · have verdict : recordedVerdict window left arrival =
          recordedVerdict window right arrival := by
        unfold recordedVerdict recordedWait
        rw [same, agree]
      have next : lastOf (recorded window left arrival) key =
          lastOf (recorded window right arrival) key := by
        rw [last_of_recorded, last_of_recorded, verdict, agree]
      simp [recordedVerdicts, same, verdict, ih _ _ next]
    -- An arrival of another host is put on the left record only, and changes nothing here.
    · have next : lastOf (recorded window left arrival) key = lastOf right key := by
        rw [last_of_recorded, agree]
        simp [same]
      simp [recordedVerdicts, same, ih _ _ next]

theorem serve_without_refused (self : Inspector) (arrivals : List Arrival) :
    self.serve (self.admitted arrivals) = self.serve arrivals := by
  induction arrivals generalizing self with
  | nil => rfl
  | cons arrival rest ih =>
    rw [admitted_cons]
    cases refused : self.refusal? arrival with
    | some refusal =>
      have same := ih self
      simpa [serve, after_refusal refused] using same
    | none => exact ih (self.after arrival)

/-- The cooldown over whole runs. At every place of a run the verdict follows from the hosts let
    in before, a refusal changes nothing, and the run as a whole gets the verdicts of the record
    that forgets nothing. Each host gets those that it would get alone, and the arrivals that
    were turned away might as well not have come. -/
theorem cooldown_decides_as_record (policy : Policy) (resolver : Dns.Resolver) (begun : Nat)
    (initial : Snapshot) (arrivals : List Arrival) (ordered : Arrival.InOrder arrivals) :
    let inspector := opened policy resolver begun initial
    (∀ past arrival later, arrivals = past ++ arrival :: later →
      let met := inspector.serve past
      Decides policy.cooldown (inspector.admitted past) arrival (met.refusal? arrival) ∧
      (met.refusal? arrival ≠ none → met.after arrival = met)) ∧
    inspector.verdicts arrivals = recordedVerdicts policy.cooldown [] arrivals ∧
    (∀ key, (inspector.verdicts arrivals).filter (fun v => v.1.key = key) =
      inspector.verdicts (arrivals.filter fun a => a.key = key)) ∧
    inspector.serve (inspector.admitted arrivals) = inspector.serve arrivals := by
  intro inspector
  have fresh : inspector.Tracks [] 0 := opened_tracks_nothing policy resolver begun initial
  have whole : ∀ run, Arrival.InOrder run →
      inspector.verdicts run = recordedVerdicts policy.cooldown [] run := by
    intro run orderedRun
    exact tracked_verdicts fresh orderedRun (fun a _ => Nat.zero_le a.now)
  refine ⟨?_, whole arrivals ordered, ?_, serve_without_refused inspector arrivals⟩
  · intro past arrival later split met
    rw [split] at ordered
    obtain ⟨orderedPast, _, across⟩ := List.pairwise_append.mp ordered
    have before : ∀ a ∈ past, a.now ≤ arrival.now :=
      fun a member => across a member arrival List.mem_cons_self
    constructor
    · have tracked := tracks_run fresh orderedPast (fun a _ => Nat.zero_le a.now)
        (Nat.zero_le arrival.now) before
      have kept := admitted_sublist inspector past
      rw [verdict_of_tracked tracked arrival (Nat.le_refl _), policy_serve]
      exact record_decides (orderedPast.sublist kept)
        (fun a member => before a (kept.subset member))
    · intro refused
      obtain ⟨refusal, verdict⟩ := Option.ne_none_iff_exists'.mp refused
      exact after_refusal verdict
  · intro key
    rw [whole arrivals ordered, whole _ (List.Pairwise.filter _ ordered)]
    exact recorded_verdicts_of_one_key policy.cooldown key arrivals [] [] rfl

def Arrival.inSilence (now : Nat) (key : UInt8) : Arrival :=
  { now := now
    host := ⟨.filled key, []⟩
    caller := .never
    world :=
      { names := .silent
        clients := .empty
        consensus := fun _ => .silence
        releaseName := fun _ => .silence } }

theorem cooldown_of_two_hosts :
    let arrivals := [Arrival.inSilence 0 1, .inSilence 4 1, .inSilence 9 2, .inSilence 10 1]
    let inspector := opened { Policy.standard with cooldown := 10 } .standard 0
      ⟨⟨⟨0, ""⟩, ⟨1, 1⟩⟩, .zero⟩
    Arrival.InOrder arrivals ∧
    (inspector.verdicts arrivals).map Prod.snd = [none, some (.onCooldown 6), none, none] := by
  intro arrivals inspector
  have ordered : Arrival.InOrder arrivals := by
    unfold Arrival.InOrder
    decide
  have decided := (cooldown_decides_as_record { Policy.standard with cooldown := 10 } .standard 0
    ⟨⟨⟨0, ""⟩, ⟨1, 1⟩⟩, .zero⟩ arrivals ordered).2.1
  exact ⟨ordered, by rw [decided]; rfl⟩

end HostHealth.Inspector
