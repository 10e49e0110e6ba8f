import HostHealth.Proofs.Outcomes
import Mathlib.Data.List.Induction
import Mathlib.Data.List.Sigma

/- The probes of a test share a cell that is written once, by the first of them that finishes with a
   release of the newest generation. In any order, all of them are compared with the first. -/
namespace HostHealth.Inspector

open Net Probe Timed

namespace HostTest

def disputeText (first own : String) : String :=
  "host is reporting multiple versions " ++ Text.quote first ++ " and " ++ Text.quote own

def compared (first : Option String) (report : ProbeReport) : ProbeReport :=
  match first, newestRelease? report with
  | some f, some release =>
    if f = release then report else report.withError (disputeText f release)
  | _, _ => report

def settle (cell : Option String) (report : ProbeReport) : Option String × ProbeReport :=
  match newestRelease? report, cell with
  | none, _ => (cell, report)
  | some release, none => (some release, report)
  | some release, some first =>
    (some first, if first = release then report else report.withError (disputeText first release))

/-- A report with the instant at which its probe finished, and with its place in the results. -/
abbrev Finish := (Nat × ProbeReport) × Nat

/-- The entries that come about in this order, each with its place. -/
def settled (cell : Option String) : List Finish → List (ProbeReport × Nat)
  | [] => []
  | finish :: rest =>
    ((settle cell finish.1.2).2, finish.2) :: settled (settle cell finish.1.2).1 rest

def SettledAs (order : List Finish) (results : List ProbeReport) : Prop :=
  ∀ place entry, results[place]? = some entry ↔ (entry, place) ∈ settled none order

def isBefore (a b : Finish) : Bool := a.1.1 < b.1.1 || (a.1.1 == b.1.1 && a.2 ≤ b.2)

def inTurn (ended : List (Nat × ProbeReport)) : List Finish := ended.zipIdx.mergeSort isBefore

def firstOf (order : List Finish) : Option String :=
  order.findSome? fun finish => newestRelease? finish.1.2

theorem compared_of_silent {report : ProbeReport} (silent : newestRelease? report = none)
    (first : Option String) : compared first report = report := by
  unfold compared
  rw [silent]
  cases first <;> rfl

theorem compared_of_same {report : ProbeReport} {release : String}
    (own : newestRelease? report = some release) : compared (some release) report = report := by
  simp [compared, own]

theorem compared_of_other {report : ProbeReport} {first release : String}
    (own : newestRelease? report = some release) (other : first ≠ release) :
    compared (some first) report = report.withError (disputeText first release) := by
  simp [compared, own, other]

theorem agreed_eq_compared (first : Option (Nat × String)) (report : ProbeReport) :
    agreed first report = compared (first.map Prod.snd) report := by
  unfold agreed compared
  cases first <;> cases newestRelease? report <;> rfl

theorem settled_eq_map (cell : Option String) (order : List Finish) :
    settled cell order =
      order.map fun finish => (compared (cell.or (firstOf order)) finish.1.2, finish.2) := by
  -- Whoever is the first in an order, all are compared with it: those before it have nothing to
  -- compare.
  induction order generalizing cell with
  | nil => rfl
  | cons finish rest ih =>
    have head : firstOf (finish :: rest) = (newestRelease? finish.1.2).or (firstOf rest) := by
      unfold firstOf
      rw [List.findSome?_cons]
      cases newestRelease? finish.1.2 <;> rfl
    rw [settled, ih, head, List.map_cons]
    cases own : newestRelease? finish.1.2 with
    | none => simp [settle, own, compared_of_silent own]
    | some release =>
      cases cell with
      | none => simp [settle, own, compared_of_same own]
      | some first => simp [settle, compared, own]

section Orders

variable {ended : List (Nat × ProbeReport)} {order : List Finish} {results : List ProbeReport}

theorem mem_order_iff (perm : order.Perm ended.zipIdx) (finish : Finish) :
    finish ∈ order ↔ ended[finish.2]? = some finish.1 := by
  rw [perm.mem_iff, List.mem_zipIdx_iff_getElem?]

theorem settled_as_iff (perm : order.Perm ended.zipIdx) :
    SettledAs order results ↔ results = ended.map fun e => compared (firstOf order) e.2 := by
  have entries : ∀ (place : Nat) (entry : ProbeReport), (entry, place) ∈ settled none order ↔
      (ended.map fun e => compared (firstOf order) e.2)[place]? = some entry := by
    intro place entry
    rw [settled_eq_map, List.mem_map, List.getElem?_map, Option.map_eq_some_iff]
    constructor
    · rintro ⟨finish, member, same⟩
      cases same
      exact ⟨finish.1, (mem_order_iff perm finish).mp member, rfl⟩
    · rintro ⟨e, there, rfl⟩
      exact ⟨(e, place), (mem_order_iff perm (e, place)).mpr there, rfl⟩
  unfold SettledAs
  simp only [entries]
  constructor
  · intro same
    apply List.ext_getElem?
    intro place
    exact Option.ext fun entry => same place entry
  · rintro rfl place entry
    rfl

theorem in_turn_perm (ended : List (Nat × ProbeReport)) : (inTurn ended).Perm ended.zipIdx :=
  List.mergeSort_perm _ _

theorem is_before_iff {a b : Finish} :
    isBefore a b = true ↔ a.1.1 < b.1.1 ∨ a.1.1 = b.1.1 ∧ a.2 ≤ b.2 := by
  simp [isBefore]

theorem in_turn_ordered (ended : List (Nat × ProbeReport)) :
    (inTurn ended).Pairwise fun a b => isBefore a b = true := by
  apply List.pairwise_mergeSort
  · intro a b c first second
    rw [is_before_iff] at first second ⊢
    omega
  · intro a b
    rw [Bool.or_eq_true, is_before_iff, is_before_iff]
    omega

/-- The release is that of the one that nobody else with a release has finished before. -/
def IsFirst : Option (Nat × String) → List Finish → Prop
  | none, finished => ∀ finish ∈ finished, newestRelease? finish.1.2 = none
  | some (t, release), finished => ∃ own place, ((t, own), place) ∈ finished ∧
      newestRelease? own = some release ∧
      ∀ other ∈ finished, newestRelease? other.1.2 ≠ none → isBefore ((t, own), place) other = true

theorem is_first_after_more {first : Option (Nat × String)} {finished : List Finish} {place : Nat}
    (known : IsFirst first finished) (inside : ∀ finish ∈ finished, finish.2 < place)
    (e : Nat × ProbeReport) : IsFirst (earlier first e) (finished ++ [(e, place)]) := by
  obtain ⟨t, own⟩ := e
  unfold earlier
  dsimp only
  cases carried : newestRelease? own with
  | none =>
    cases first with
    | none =>
      intro finish member
      rcases List.mem_append.mp member with old | new
      · exact known finish old
      · cases List.mem_singleton.mp new
        exact carried
    | some best =>
      obtain ⟨report, place', member, theirs, least⟩ := known
      refine ⟨report, place', List.mem_append_left _ member, theirs, ?_⟩
      intro other there carries
      rcases List.mem_append.mp there with old | new
      · exact least other old carries
      · cases List.mem_singleton.mp new
        exact absurd carried carries
  | some release =>
    have last : ((t, own), place) ∈ finished ++ [((t, own), place)] :=
      List.mem_append_right _ (List.mem_singleton.mpr rfl)
    cases first with
    | none =>
      refine ⟨own, place, last, carried, ?_⟩
      intro other there carries
      rcases List.mem_append.mp there with old | new
      · exact absurd (known other old) carries
      · cases List.mem_singleton.mp new
        exact is_before_iff.mpr (Or.inr ⟨rfl, Nat.le_refl _⟩)
    | some best =>
      obtain ⟨u, first⟩ := best
      obtain ⟨report, place', member, theirs, least⟩ := known
      -- The later place wins only if it is strictly earlier.
      by_cases sooner : t < u
      · dsimp only
        rw [if_pos sooner]
        refine ⟨own, place, last, carried, ?_⟩
        intro other there carries
        rcases List.mem_append.mp there with old | new
        · have after := is_before_iff.mp (least other old carries)
          dsimp only at after
          exact is_before_iff.mpr (Or.inl (by dsimp only; omega))
        · cases List.mem_singleton.mp new
          exact is_before_iff.mpr (Or.inr ⟨rfl, Nat.le_refl _⟩)
      · dsimp only
        rw [if_neg sooner]
        refine ⟨report, place', List.mem_append_left _ member, theirs, ?_⟩
        intro other there carries
        rcases List.mem_append.mp there with old | new
        · exact least other old carries
        · cases List.mem_singleton.mp new
          have before := inside _ member
          apply is_before_iff.mpr
          dsimp only at before ⊢
          omega

theorem first_release_is_first (ended : List (Nat × ProbeReport)) :
    IsFirst (firstRelease ended) ended.zipIdx := by
  rw [first_release_eq_foldl]
  -- From the end of the list, for the last report is the one that is looked at last.
  induction ended using List.reverseRecOn with
  | nil =>
    intro finish member
    cases member
  | append_singleton rest e ih =>
    rw [List.foldl_concat, List.zipIdx_append]
    apply is_first_after_more ih
    intro finish member
    rw [Nat.zero_add]
    exact List.snd_lt_of_mem_zipIdx member

theorem first_of_in_turn (ended : List (Nat × ProbeReport)) :
    firstOf (inTurn ended) = (firstRelease ended).map Prod.snd := by
  have perm := in_turn_perm ended
  have known := first_release_is_first ended
  cases first : firstRelease ended with
  | none =>
    rw [first] at known
    apply List.findSome?_eq_none_iff.mpr
    intro finish member
    exact known finish (perm.mem_iff.mp member)
  | some best =>
    obtain ⟨t, release⟩ := best
    rw [first] at known
    obtain ⟨own, place, there, carried, least⟩ := known
    obtain ⟨front, back, split⟩ := List.append_of_mem (perm.mem_iff.mpr there)
    refine List.findSome?_eq_some_iff.mpr ⟨front, _, back, split, carried, ?_⟩
    intro other early
    by_contra carries
    -- Each of the two would be before the other, and a place comes once in an order.
    have after := is_before_iff.mp
      (least other (perm.mem_iff.mp (by rw [split]; exact List.mem_append_left _ early)) carries)
    have ordered := in_turn_ordered ended
    rw [split] at ordered
    have before := is_before_iff.mp
      ((List.pairwise_append.mp ordered).2.2 other early _ List.mem_cons_self)
    dsimp only at before after
    have onePlace : other.2 = place := by omega
    have places : ((inTurn ended).map Prod.snd).Nodup :=
      (perm.map Prod.snd).nodup_iff.mpr (List.nodup_zipIdx_map_snd ended)
    rw [split, List.map_append, List.map_cons] at places
    exact (List.nodup_append.mp places).2.2 _ (List.mem_map_of_mem early) _ List.mem_cons_self
      onePlace

theorem reconciled_in_turn (ended : List (Nat × ProbeReport)) :
    SettledAs (inTurn ended) (reconcile ended) := by
  rw [settled_as_iff (in_turn_perm ended), first_of_in_turn, reconcile_eq_map_agreed]
  simp only [agreed_eq_compared]

end Orders

end HostTest
end HostHealth.Inspector
