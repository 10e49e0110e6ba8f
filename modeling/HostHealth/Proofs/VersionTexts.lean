import HostHealth.Proofs.Numerals
import HostHealth.Proofs.Readers
import HostHealth.Version

/- Which texts are read as versions, and what each of the others is refused for. A version comes
   back from its own text. Its other texts differ from that one by zeros in front of a number, or
   by a dash with no suffix behind it. -/
namespace HostHealth

open Text

def VersionPart.earlier : VersionPart → List VersionPart
  | .major => []
  | .minor => [.major]
  | .patch => [.major, .minor]

namespace Version

/-- Three parts between dots, and the suffix when a dash follows them. -/
structure Spelling where
  major : List Char
  minor : List Char
  patch : List Char
  suffix : Option (List Char)

def IsPart (text : List Char) : Prop := ∃ n : UInt8, IsNumeral text n.toNat

def beforeDash (text : List Char) : List Char := text.takeWhile (· != '-')

namespace Spelling

def part (s : Spelling) : VersionPart → List Char
  | .major => s.major
  | .minor => s.minor
  | .patch => s.patch

def numbers (s : Spelling) : List Char := s.major ++ '.' :: s.minor ++ '.' :: s.patch

def tail (s : Spelling) : List Char :=
  match s.suffix with
  | none => []
  | some suffix => '-' :: suffix

def chars (s : Spelling) : List Char := 'v' :: s.numbers ++ s.tail

/-- Nothing in the parts would be taken for what stands between them. -/
def IsApart (s : Spelling) : Prop := ∀ which, '.' ∉ s.part which ∧ '-' ∉ s.part which

structure Spells (s : Spelling) (v : Version) : Prop where
  major : IsNumeral s.major v.major.toNat
  minor : IsNumeral s.minor v.minor.toNat
  patch : IsNumeral s.patch v.patch.toNat
  suffix : v.suffix.toList = s.suffix.getD []

structure IsTight (s : Spelling) : Prop where
  zeros : ∀ which, ¬ HasSpareZero (s.part which)
  dash : s.suffix ≠ some []

def IsFirstBad (s : Spelling) (which : VersionPart) : Prop :=
  ¬ IsPart (s.part which) ∧ ∀ other ∈ which.earlier, IsPart (s.part other)

end Spelling

/-- What a text is refused for. -/
inductive Refused (text : List Char) : VersionError → Prop
  | empty (nothing : text = []) : Refused text .empty
  | unmarked (nonempty : text ≠ []) (unmarked : text.head? ≠ some 'v') :
      Refused text (.format (String.ofList text))
  | misshapen {rest : List Char} (marked : text = 'v' :: rest)
      (dots : (beforeDash rest).count '.' ≠ 2) :
      Refused text (.format (String.ofList (beforeDash rest)))
  | part {s : Spelling} {which : VersionPart} (apart : s.IsApart) (whole : text = s.chars)
      (bad : s.IsFirstBad which) : Refused text (.part which (String.ofList (s.part which)))

section Reading

variable {s : Spelling} {v : Version} {rest : List Char} {text : String} {which : VersionPart}

theorem numeral_is_apart {part : List Char} {n : Nat} (numeral : IsNumeral part n) :
    '.' ∉ part ∧ '-' ∉ part :=
  ⟨numeral_has_no numeral rfl, numeral_has_no numeral rfl⟩

theorem spelled_is_apart (spelled : s.Spells v) : s.IsApart := by
  intro which
  cases which with
  | major => exact numeral_is_apart spelled.major
  | minor => exact numeral_is_apart spelled.minor
  | patch => exact numeral_is_apart spelled.patch

theorem dash_not_in_numbers (apart : s.IsApart) : '-' ∉ s.numbers := by
  have major := (apart .major).2
  have minor := (apart .minor).2
  have patch := (apart .patch).2
  simp only [Spelling.part] at major minor patch
  simp [Spelling.numbers, major, minor, patch]

theorem numbers_before_dash (apart : s.IsApart) : beforeDash (s.numbers ++ s.tail) = s.numbers := by
  have dashless : ∀ c ∈ s.numbers, (c != '-') = true := by
    intro c member
    have other : c ≠ '-' := fun same => dash_not_in_numbers apart (same ▸ member)
    simpa using other
  have none : s.tail.takeWhile (· != '-') = [] := by
    unfold Spelling.tail
    cases s.suffix <;> simp
  rw [beforeDash, List.takeWhile_append_of_pos dashless, none, List.append_nil]

theorem suffix_behind_dash (apart : s.IsApart) :
    ((s.numbers ++ s.tail).dropWhile (· != '-')).drop 1 = s.suffix.getD [] := by
  have whole := List.takeWhile_append_dropWhile (p := (· != '-')) (l := s.numbers ++ s.tail)
  have front := numbers_before_dash apart
  rw [beforeDash] at front
  rw [front, List.append_cancel_left_eq] at whole
  rw [whole, Spelling.tail]
  cases s.suffix <;> rfl

theorem three_pieces_iff {numbers major minor patch : List Char} :
    pieces (· == '.') numbers = [major, minor, patch] ↔
      numbers = major ++ '.' :: minor ++ '.' :: patch ∧ '.' ∉ major ∧ '.' ∉ minor ∧ '.' ∉ patch := by
  rw [pieces_iff (List.cons_ne_nil _ _)]
  simp only [List.intercalate_cons_cons, List.intercalate_singleton, List.forall_mem_cons]
  simp [eq_comm]

theorem pieces_of_numbers (apart : s.IsApart) :
    pieces (· == '.') s.numbers = [s.major, s.minor, s.patch] :=
  three_pieces_iff.mpr ⟨rfl, (apart .major).1, (apart .minor).1, (apart .patch).1⟩

theorem spelling_of_pieces {major minor patch : List Char}
    (three : pieces (· == '.') (beforeDash rest) = [major, minor, patch]) :
    ∃ s : Spelling, s.IsApart ∧ 'v' :: rest = s.chars := by
  obtain ⟨own, major_whole, minor_whole, patch_whole⟩ := three_pieces_iff.mp three
  have dashless : '-' ∉ beforeDash rest := fun inside => by
    simpa using List.mem_takeWhile_imp inside
  have parts : rest = beforeDash rest ++ rest.dropWhile (· != '-') :=
    List.takeWhile_append_dropWhile.symm
  rw [own] at dashless
  simp only [List.mem_append, List.mem_cons, not_or] at dashless
  have apart (suffix : Option (List Char)) :
      (Spelling.mk major minor patch suffix).IsApart := by
    intro which
    cases which with
    | major => exact ⟨major_whole, dashless.1.1⟩
    | minor => exact ⟨minor_whole, dashless.1.2.2⟩
    | patch => exact ⟨patch_whole, dashless.2.2⟩
  cases behind : rest.dropWhile (· != '-') with
  | nil =>
    refine ⟨⟨major, minor, patch, none⟩, apart none, ?_⟩
    rw [parts, own, behind]
    rfl
  | cons c suffix =>
    have dash : c = '-' := by
      have stopped := List.head?_dropWhile_not (· != '-') rest
      simpa [behind] using stopped
    refine ⟨⟨major, minor, patch, some suffix⟩, apart (some suffix), ?_⟩
    rw [parts, own, behind, dash]
    rfl

theorem read_marked (marked : text.toList = 'v' :: rest) :
    read text = match pieces (· == '.') (beforeDash rest) with
      | [major, minor, patch] => do
        return ⟨← readPart .major major, ← readPart .minor minor, ← readPart .patch patch,
          String.ofList ((rest.dropWhile (· != '-')).drop 1)⟩
      | _ => .error (.format (String.ofList (beforeDash rest))) := by
  have front : beforeDash rest = ((cutFirst '-' rest).getD (rest, [])).1 := by
    rw [cut_first_or_whole, beforeDash]
  have back : (rest.dropWhile (· != '-')).drop 1 = ((cutFirst '-' rest).getD (rest, [])).2 := by
    rw [cut_first_or_whole]
  rw [front, back, read, marked]
  rfl

theorem read_of_apart (apart : s.IsApart) (whole : text.toList = s.chars) :
    read text = do
      return ⟨← readPart .major s.major, ← readPart .minor s.minor, ← readPart .patch s.patch,
        String.ofList (s.suffix.getD [])⟩ := by
  have marked : text.toList = 'v' :: (s.numbers ++ s.tail) := whole
  rw [read_marked marked, numbers_before_dash apart, pieces_of_numbers apart,
    suffix_behind_dash apart]

theorem read_part_ok_iff {text : List Char} {n : UInt8} :
    readPart which text = .ok n ↔ IsNumeral text n.toNat := by
  have below : readBelow 256 text = some n.toNat ↔ IsNumeral text n.toNat :=
    read_below_iff.trans (and_iff_left n.toNat_lt)
  rw [← below, readPart]
  cases own : readBelow 256 text with
  | none => simp
  | some m =>
    have small : m < 256 := (read_below_iff.mp own).2
    simp [← UInt8.toNat_inj, UInt8.toNat_ofNat_of_lt' small]

theorem part_is_read (which : VersionPart) {text : List Char} (good : IsPart text) :
    ∃ n, readPart which text = .ok n := by
  obtain ⟨n, numeral⟩ := good
  exact ⟨n, read_part_ok_iff.mpr numeral⟩

theorem read_part_error {text : List Char} (bad : ¬ IsPart text) :
    readPart which text = .error (.part which (String.ofList text)) := by
  cases own : readPart which text with
  | ok n => exact absurd ⟨n, read_part_ok_iff.mp own⟩ bad
  | error e =>
    rw [readPart] at own
    split at own
    · cases own
    · rw [own]

theorem read_of_spelled (whole : text.toList = s.chars) (spelled : s.Spells v) :
    read text = .ok v := by
  rw [read_of_apart (spelled_is_apart spelled) whole, read_part_ok_iff.mpr spelled.major,
    read_part_ok_iff.mpr spelled.minor, read_part_ok_iff.mpr spelled.patch, ← spelled.suffix,
    String.ofList_toList]
  rfl

theorem read_of_first_bad (apart : s.IsApart) (whole : text.toList = s.chars)
    (bad : s.IsFirstBad which) :
    read text = .error (.part which (String.ofList (s.part which))) := by
  obtain ⟨unread, good⟩ := bad
  rw [read_of_apart apart whole]
  cases which with
  | major =>
    have fails : readPart .major s.major = _ := read_part_error unread
    rw [fails]
    rfl
  | minor =>
    obtain ⟨a, major⟩ := part_is_read .major (good .major (by decide))
    have fails : readPart .minor s.minor = _ := read_part_error unread
    simp only [Spelling.part] at major
    rw [major, fails]
    rfl
  | patch =>
    obtain ⟨a, major⟩ := part_is_read .major (good .major (by decide))
    obtain ⟨b, minor⟩ := part_is_read .minor (good .minor (by decide))
    have fails : readPart .patch s.patch = _ := read_part_error unread
    simp only [Spelling.part] at major minor
    rw [major, minor, fails]
    rfl

theorem first_bad_cases (s : Spelling) :
    (∃ v, s.Spells v) ∨ ∃ which, s.IsFirstBad which := by
  by_cases major : IsPart s.major
  · by_cases minor : IsPart s.minor
    · by_cases patch : IsPart s.patch
      · obtain ⟨a, major⟩ := major
        obtain ⟨b, minor⟩ := minor
        obtain ⟨c, patch⟩ := patch
        exact .inl ⟨⟨a, b, c, String.ofList (s.suffix.getD [])⟩, major, minor, patch,
          String.toList_ofList⟩
      · exact .inr ⟨.patch, patch, by simp [VersionPart.earlier, Spelling.part, major, minor]⟩
    · exact .inr ⟨.minor, minor, by simp [VersionPart.earlier, Spelling.part, major]⟩
  · exact .inr ⟨.major, major, by simp [VersionPart.earlier]⟩

theorem verdict_cases (text : List Char) :
    (∃ v, ∃ s : Spelling, text = s.chars ∧ s.Spells v) ∨ ∃ e, Refused text e := by
  cases text with
  | nil => exact .inr ⟨_, .empty rfl⟩
  | cons c rest =>
    by_cases marked : c = 'v'
    · rw [marked]
      by_cases dots : (beforeDash rest).count '.' = 2
      · have three : (pieces (· == '.') (beforeDash rest)).length = 3 := by rw [pieces_length, dots]
        obtain ⟨major, minor, patch, own⟩ := List.length_eq_three.mp three
        obtain ⟨s, apart, whole⟩ := spelling_of_pieces own
        rcases first_bad_cases s with ⟨v, spelled⟩ | ⟨which, bad⟩
        · exact .inl ⟨v, s, whole, spelled⟩
        · exact .inr ⟨_, .part apart whole bad⟩
      · exact .inr ⟨_, .misshapen rfl dots⟩
    · exact .inr ⟨_, .unmarked (List.cons_ne_nil _ _) (by simpa using marked)⟩

theorem read_of_refused {e : VersionError} (refused : Refused text.toList e) :
    read text = .error e := by
  cases refused with
  | empty nothing => rw [read, nothing]
  | unmarked nonempty unmarked =>
    rw [String.ofList_toList, read]
    split
    · rename_i nothing
      exact absurd nothing nonempty
    · rename_i marked
      rw [marked] at unmarked
      exact absurd rfl unmarked
    · rfl
  | misshapen marked dots =>
    rw [read_marked marked]
    split
    · rename_i three
      have pieces_are_three := congrArg List.length three
      rw [pieces_length] at pieces_are_three
      simp only [List.length_cons, List.length_nil] at pieces_are_three
      omega
    · rfl
  | part apart whole bad => exact read_of_first_bad apart whole bad

theorem read_verdicts (text : String) :
    (∀ v, read text = .ok v ↔ ∃ s : Spelling, text.toList = s.chars ∧ s.Spells v) ∧
      ∀ e, read text = .error e ↔ Refused text.toList e :=
  verdicts_are_exact (fun _ ⟨_, whole, spelled⟩ => read_of_spelled whole spelled)
    (fun _ => read_of_refused) (verdict_cases text.toList)

theorem read_ok_iff : read text = .ok v ↔ ∃ s : Spelling, text.toList = s.chars ∧ s.Spells v :=
  (read_verdicts text).1 v

end Reading

def spelling (v : Version) : Spelling where
  major := digits v.major.toNat
  minor := digits v.minor.toNat
  patch := digits v.patch.toNat
  suffix := if v.suffix = "" then none else some v.suffix.toList

section Writing

variable {s t : Spelling} {v : Version}

theorem text_is_spelled (v : Version) : v.text.toList = v.spelling.chars := by
  by_cases plain : v.suffix = ""
  · simp [text, isPrerelease, plain, spelling, Spelling.chars, Spelling.numbers, Spelling.tail,
      decimal]
  · simp [text, isPrerelease, plain, spelling, Spelling.chars, Spelling.numbers, Spelling.tail,
      decimal]

theorem spelling_spells (v : Version) : v.spelling.Spells v := by
  refine ⟨digits_are_numeral _, digits_are_numeral _, digits_are_numeral _, ?_⟩
  by_cases plain : v.suffix = ""
  · simp [spelling, plain]
  · simp [spelling, plain]

theorem spelling_is_tight (v : Version) : v.spelling.IsTight := by
  constructor
  · intro which
    cases which with
    | major => exact digits_spare_no_zero _
    | minor => exact digits_spare_no_zero _
    | patch => exact digits_spare_no_zero _
  · by_cases plain : v.suffix = ""
    · simp [spelling, plain]
    · simp [spelling, plain]

theorem read_of_text (v : Version) : read v.text = .ok v :=
  read_of_spelled (text_is_spelled v) (spelling_spells v)

theorem eq_of_chars (apart : s.IsApart) (other : t.IsApart) (same : s.chars = t.chars) : s = t := by
  have behind : s.numbers ++ s.tail = t.numbers ++ t.tail := (List.cons.inj same).2
  have numbers : s.numbers = t.numbers := by
    rw [← numbers_before_dash apart, behind, numbers_before_dash other]
  have parts : [s.major, s.minor, s.patch] = [t.major, t.minor, t.patch] := by
    rw [← pieces_of_numbers apart, numbers, pieces_of_numbers other]
  rw [numbers, List.append_cancel_left_eq] at behind
  have suffix : s.suffix = t.suffix := by
    unfold Spelling.tail at behind
    cases own : s.suffix <;> cases their : t.suffix <;> simp_all
  cases s
  cases t
  simp_all

theorem tight_spelling (spelled : s.Spells v) (tight : s.IsTight) : v.spelling = s := by
  have major := digits_of_numeral spelled.major (tight.zeros .major)
  have minor := digits_of_numeral spelled.minor (tight.zeros .minor)
  have patch := digits_of_numeral spelled.patch (tight.zeros .patch)
  have suffix : (if v.suffix = "" then none else some v.suffix.toList) = s.suffix := by
    have own := spelled.suffix
    cases behind : s.suffix with
    | none =>
      rw [behind, Option.getD_none, String.toList_eq_nil_iff] at own
      rw [if_pos own]
    | some suffix =>
      have dash := tight.dash
      rw [behind, Option.getD_some] at own
      rw [behind, ← own] at dash
      rw [if_neg (by simpa using dash), own]
  rw [spelling, major, minor, patch, suffix]

theorem text_eq_iff (spelled : s.Spells v) : v.text = String.ofList s.chars ↔ s.IsTight := by
  constructor
  · intro same
    have chars : v.spelling.chars = s.chars := by
      rw [← text_is_spelled, same, String.toList_ofList]
    rw [← eq_of_chars (spelled_is_apart (spelling_spells v)) (spelled_is_apart spelled) chars]
    exact spelling_is_tight v
  · intro tight
    rw [← tight_spelling spelled tight, ← text_is_spelled, String.ofList_toList]

end Writing

/-- A version is read from its own text, and from no text but those that spell it; of these it is
    the one with nothing to spare. Any other text is refused for the first of its faults. -/
theorem version_text_is_exact :
    (∀ v, read v.text = .ok v) ∧
      (∀ text v, read text = .ok v ↔ ∃ s : Spelling, text.toList = s.chars ∧ s.Spells v) ∧
      (∀ (s : Spelling) v, s.Spells v → (v.text = String.ofList s.chars ↔ s.IsTight)) ∧
      ∀ text e, read text = .error e ↔ Refused text.toList e :=
  ⟨read_of_text, fun text => (read_verdicts text).1, fun _ _ spelled => text_eq_iff spelled,
    fun text => (read_verdicts text).2⟩

theorem loose_text_of_candidate :
    let s : Spelling := ⟨"0".toList, "255".toList, "07".toList, some "rc-1.0 ".toList⟩
    let v : Version := ⟨0, 255, 7, "rc-1.0 "⟩
    s.Spells v ∧ ¬ s.IsTight ∧ read "v0.255.07-rc-1.0 " = .ok v ∧
      v.text ≠ "v0.255.07-rc-1.0 " := by
  intro s v
  have spelled : s.Spells v := ⟨by decide, by decide, by decide, by decide⟩
  have loose : ¬ s.IsTight := fun tight => tight.zeros .patch (by decide)
  obtain ⟨_, accepted, own, _⟩ := version_text_is_exact
  exact ⟨spelled, loose, (accepted _ v).mpr ⟨s, rfl, spelled⟩,
    fun same => loose ((own s v spelled).mp same)⟩

end Version
end HostHealth
