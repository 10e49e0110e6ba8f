import HostHealth.Version
import Mathlib.Data.List.Basic

/- The order of versions. Every version has a rank among the whole numbers, and what holds of their
   order holds of versions so. -/
namespace HostHealth.Version

def LowerNumbers (a b : Version) : Prop :=
  a.major.toNat < b.major.toNat ∨ a.major = b.major ∧
    (a.minor.toNat < b.minor.toNat ∨ a.minor = b.minor ∧ a.patch.toNat < b.patch.toNat)

def SameNumbers (a b : Version) : Prop :=
  a.major = b.major ∧ a.minor = b.minor ∧ a.patch = b.patch

def lastPlace (v : Version) : Nat := if v.isPrerelease then 0 else 1

def rank (v : Version) : Nat :=
  ((v.major.toNat * 256 + v.minor.toNat) * 256 + v.patch.toNat) * 2 + v.lastPlace

/-- What a list has become that is in order, with versions of one rank in their old order. -/
structure SortedFrom (versions sorted : List Version) : Prop where
  perm : sorted.Perm versions
  ascending : sorted.Pairwise fun a b => a.compare b ≠ .gt
  keepsLevel : ∀ v : Version, sorted.filter v.isLevel = versions.filter v.isLevel

section Ranks

variable {a b c : Version}

theorem compare_places {base x y u v : Nat} (first : u < base) (second : v < base) :
    Ord.compare (x * base + u) (y * base + v) = (Ord.compare x y).then (Ord.compare u v) := by
  rcases Nat.lt_trichotomy x y with below | same | above
  · have gap : (x + 1) * base ≤ y * base := Nat.mul_le_mul_right base below
    have less : x * base + u < y * base + v := by
      rw [Nat.add_mul] at gap
      omega
    simp [Nat.compare_eq_lt.mpr below, Nat.compare_eq_lt.mpr less]
  · subst same
    rcases Nat.lt_trichotomy u v with smaller | level | greater
    · have less : x * base + u < x * base + v := by omega
      simp [Nat.compare_eq_lt.mpr smaller, Nat.compare_eq_lt.mpr less]
    · simp [level]
    · have more : x * base + v < x * base + u := by omega
      simp [Nat.compare_eq_gt.mpr greater, Nat.compare_eq_gt.mpr more]
  · have gap : (y + 1) * base ≤ x * base := Nat.mul_le_mul_right base above
    have more : y * base + v < x * base + u := by
      rw [Nat.add_mul] at gap
      omega
    simp [Nat.compare_eq_gt.mpr above, Nat.compare_eq_gt.mpr more]

theorem compare_of_word (x y : UInt8) : Ord.compare x y = Ord.compare x.toNat y.toNat := by
  simp only [Ord.compare, compareOfLessAndEq, UInt8.lt_iff_toNat_lt, UInt8.toNat_inj]

theorem last_place_bounded (v : Version) : v.lastPlace < 2 := by
  unfold lastPlace
  split <;> omega

theorem compare_eq_ranks (a b : Version) : a.compare b = Ord.compare a.rank b.rank := by
  unfold compare rank
  rw [compare_places a.last_place_bounded b.last_place_bounded,
    compare_places a.patch.toNat_lt b.patch.toNat_lt,
    compare_places a.minor.toNat_lt b.minor.toNat_lt]
  simp only [compare_of_word, Ordering.then_assoc]
  unfold lastPlace
  cases a.isPrerelease <;> cases b.isPrerelease <;> rfl

theorem compare_lt_iff_rank : a.compare b = .lt ↔ a.rank < b.rank := by
  rw [compare_eq_ranks, Nat.compare_eq_lt]

theorem compare_eq_iff_rank : a.compare b = .eq ↔ a.rank = b.rank := by
  rw [compare_eq_ranks, Nat.compare_eq_eq]

theorem not_above_iff_rank : a.compare b ≠ .gt ↔ a.rank ≤ b.rank := by
  rw [compare_eq_ranks, ne_eq, Nat.compare_eq_gt, Nat.not_lt]

theorem is_older_iff : a.isOlder b = true ↔ a.compare b = .lt := beq_iff_eq

theorem is_level_iff : a.isLevel b = true ↔ a.compare b = .eq := beq_iff_eq

theorem compare_swap (a b : Version) : b.compare a = (a.compare b).swap := by
  rw [compare_eq_ranks, compare_eq_ranks, Nat.compare_swap]

theorem not_above_trans (first : a.compare b ≠ .gt) (second : b.compare c ≠ .gt) :
    a.compare c ≠ .gt := by
  rw [not_above_iff_rank] at first second ⊢
  omega

theorem last_place_of_suffix (v : Version) : v.lastPlace = 1 ↔ v.suffix = "" := by
  simp [lastPlace, isPrerelease]

theorem compare_lt_iff : a.compare b = .lt ↔
    a.LowerNumbers b ∨ a.SameNumbers b ∧ a.suffix ≠ "" ∧ b.suffix = "" := by
  have bounds := And.intro a.last_place_bounded b.last_place_bounded
  have places := And.intro (And.intro a.minor.toNat_lt b.minor.toNat_lt)
    (And.intro a.patch.toNat_lt b.patch.toNat_lt)
  rw [compare_lt_iff_rank, ne_eq, ← last_place_of_suffix, ← last_place_of_suffix]
  simp only [rank, LowerNumbers, SameNumbers, ← UInt8.toNat_inj]
  omega

theorem compare_eq_iff : a.compare b = .eq ↔
    a.SameNumbers b ∧ (a.suffix = "" ↔ b.suffix = "") := by
  have bounds := And.intro a.last_place_bounded b.last_place_bounded
  have places := And.intro (And.intro a.minor.toNat_lt b.minor.toNat_lt)
    (And.intro a.patch.toNat_lt b.patch.toNat_lt)
  rw [compare_eq_iff_rank, ← last_place_of_suffix, ← last_place_of_suffix]
  simp only [rank, SameNumbers, ← UInt8.toNat_inj]
  omega

end Ranks

section Sorting

variable {versions sorted other : List Version}

theorem ranked_trans (a b c : Version) (first : (a.compare b != .gt) = true)
    (second : (b.compare c != .gt) = true) : (a.compare c != .gt) = true := by
  simp only [bne_iff_ne] at first second ⊢
  exact not_above_trans first second

theorem ranked_total (a b : Version) : (a.compare b != .gt || b.compare a != .gt) = true := by
  simp only [Bool.or_eq_true, bne_iff_ne, not_above_iff_rank]
  omega

theorem sort_ascending (versions : List Version) :
    (sort versions).Pairwise fun a b => a.compare b ≠ .gt := by
  have ordered : (sort versions).Pairwise fun a b => (a.compare b != .gt) = true :=
    List.pairwise_mergeSort ranked_trans ranked_total versions
  simpa using ordered

theorem sort_keeps_level (versions : List Version) (v : Version) :
    (sort versions).filter v.isLevel = versions.filter v.isLevel := by
  have perm : (sort versions).Perm versions := List.mergeSort_perm _ _
  have level : (versions.filter v.isLevel).Pairwise fun a b => (a.compare b != .gt) = true := by
    apply List.pairwise_of_forall_mem_list
    intro a first b second
    have ranks := And.intro (List.mem_filter.mp first).2 (List.mem_filter.mp second).2
    simp only [is_level_iff, compare_eq_iff_rank] at ranks
    simp only [bne_iff_ne, not_above_iff_rank]
    omega
  have inside : (versions.filter v.isLevel).Sublist (sort versions) :=
    List.sublist_mergeSort ranked_trans ranked_total level List.filter_sublist
  have kept := inside.filter v.isLevel
  simp only [List.filter_filter, Bool.and_self] at kept
  exact (kept.eq_of_length (perm.filter _).length_eq.symm).symm

theorem sort_is_sorted (versions : List Version) : SortedFrom versions (sort versions) :=
  ⟨List.mergeSort_perm _ _, sort_ascending versions, sort_keeps_level versions⟩

theorem level_with_itself (v : Version) : v.isLevel v = true := by
  simp [is_level_iff, compare_eq_iff_rank]

theorem sorted_unique (first : sorted.Pairwise fun a b => a.compare b ≠ .gt)
    (second : other.Pairwise fun a b => a.compare b ≠ .gt) (perm : sorted.Perm other)
    (same : ∀ v : Version, sorted.filter v.isLevel = other.filter v.isLevel) :
    sorted = other := by
  -- Two lists in order, in which the versions of every rank are the same and stand in the same
  -- order, are the same list: both begin with what is first of the lowest rank.
  induction sorted generalizing other with
  | nil => exact perm.nil_eq
  | cons a rest ih =>
    cases other with
    | nil => exact absurd perm.eq_nil (List.cons_ne_nil _ _)
    | cons b more =>
      have lowest : ∀ v ∈ a :: rest, a.rank ≤ v.rank ∧ b.rank ≤ v.rank := by
        intro v member
        have listed : v ∈ b :: more := perm.mem_iff.mp member
        simp only [List.pairwise_cons, not_above_iff_rank] at first second
        simp only [List.mem_cons] at member listed
        constructor
        · rcases member with here | later
          · simp [here]
          · exact first.1 v later
        · rcases listed with here | later
          · simp [here]
          · exact second.1 v later
      have level : a.isLevel b = true := by
        have one := lowest a List.mem_cons_self
        have two := lowest b (perm.mem_iff.mpr List.mem_cons_self)
        simp only [is_level_iff, compare_eq_iff_rank]
        omega
      have heads := same a
      simp only [List.filter_cons, level, level_with_itself, if_true, List.cons.injEq] at heads
      obtain ⟨rfl, _⟩ := heads
      have tails : rest = more := by
        apply ih first.tail second.tail (List.perm_cons a |>.mp perm)
        intro v
        have whole := same v
        simp only [List.filter_cons] at whole
        split at whole
        · exact (List.cons.inj whole).2
        · exact whole
      rw [tails]

theorem sorted_from_iff : SortedFrom versions sorted ↔ sorted = sort versions := by
  constructor
  · intro own
    have ours := sort_is_sorted versions
    exact sorted_unique own.ascending ours.ascending (own.perm.trans ours.perm.symm)
      (fun v => (own.keepsLevel v).trans (ours.keepsLevel v).symm)
  · rintro rfl
    exact sort_is_sorted versions

end Sorting

end HostHealth.Version
