import HostHealth.Proofs.VersionTexts
import HostHealth.Settings.Validation

/- The release texts in which a version is found. A text of one word is read as it stands, blanks
   at its end included; of several words the second is the version, whatever comes behind it. So
   a host is judged alike whether or not it puts a name in front of its version. -/
namespace HostHealth

open Text

namespace Version

def BlanksLast (text : List Char) : Prop :=
  text.Pairwise fun earlier later => isBlank earlier = true → isBlank later = true

def IsUnbroken (text : String) : Prop := ∀ c ∈ text.toList, isBlank c = false

def IsBlankRun (text : String) : Prop := ∀ c ∈ text.toList, isBlank c = true

instance (text : String) : Decidable (IsUnbroken text) :=
  decidable_of_iff (text.toList.all (!isBlank ·) = true) (by simp [IsUnbroken])

instance (text : String) : Decidable (IsBlankRun text) :=
  decidable_of_iff (text.toList.all isBlank = true) (by simp [IsBlankRun])

/-- What stands around a version when a name comes before it. -/
structure Frame where
  before : String
  app : String
  between : String
  behind : String
  further : String

def Frame.around (f : Frame) (version : String) : String :=
  f.before ++ f.app ++ f.between ++ version ++ f.behind ++ f.further

structure Frame.IsProper (f : Frame) : Prop where
  before : IsBlankRun f.before
  app : f.app ≠ "" ∧ IsUnbroken f.app
  between : f.between ≠ "" ∧ IsBlankRun f.between
  behind : IsBlankRun f.behind
  further : f.further = "" ∨ f.behind ≠ ""

section Words

variable {text : String} {v : Version} {word first : List Char} {more : List (List Char)}

theorem read_release_of_words (several : words text.toList = first :: word :: more) :
    readRelease text = read (String.ofList word) := by
  rw [readRelease, several]

theorem read_release_of_word (single : words text.toList = [word]) :
    readRelease text = read text := by
  rw [readRelease, single]

theorem starts_with_blank {blanks : List Char} (rest : List Char)
    (run : ∀ c ∈ blanks, isBlank c = true) (parted : rest = [] ∨ blanks ≠ []) :
    ∀ c ∈ (blanks ++ rest).head?, isBlank c = true := by
  cases blanks with
  | nil => simp [parted.resolve_right (fun other => other rfl)]
  | cons c more => simpa using run c List.mem_cons_self

theorem words_of_around {f : Frame} {version : String} (proper : f.IsProper)
    (nonempty : version ≠ "") (whole : IsUnbroken version) :
    words (f.around version).toList =
      f.app.toList :: version.toList :: words (f.behind.toList ++ f.further.toList) := by
  obtain ⟨before, ⟨named, app⟩, ⟨parted, between⟩, behind, further⟩ := proper
  have name_ends := starts_with_blank (version.toList ++ (f.behind.toList ++ f.further.toList))
    between (.inr (by simpa using parted))
  have version_ends := starts_with_blank f.further.toList behind (by simpa using further)
  simp only [Frame.around, String.toList_append, List.append_assoc]
  rw [words_behind_blanks before, words_before_blank (by simpa using named) app name_ends,
    words_behind_blanks between,
    words_before_blank (by simpa using nonempty) whole version_ends]

theorem read_around {f : Frame} {version : String} (proper : f.IsProper)
    (nonempty : version ≠ "") (whole : IsUnbroken version) :
    readRelease (f.around version) = readRelease version := by
  have single := words_of_word (by simpa using nonempty) whole
  rw [read_release_of_words (words_of_around proper nonempty whole), read_release_of_word single,
    String.ofList_toList]

end Words

section Suffixes

variable {text : List Char} {v : Version}

theorem blank_in_between (early : ¬ BlanksLast text) :
    ∃ front blank back solid, text = front ++ blank :: back ∧ isBlank blank = true ∧
      solid ∈ back ∧ isBlank solid = false := by
  induction text with
  | nil => exact absurd List.Pairwise.nil early
  | cons c rest ih =>
    by_cases later : BlanksLast rest
    · rw [BlanksLast, List.pairwise_cons, not_and'] at early
      have mixed := early later
      simp only [not_forall, Bool.not_eq_true] at mixed
      obtain ⟨solid, member, blank, other⟩ := mixed
      exact ⟨[], c, rest, solid, rfl, blank, member, other⟩
    · obtain ⟨front, blank, back, solid, own, others⟩ := ih later
      exact ⟨c :: front, blank, back, solid, by rw [own, List.cons_append], others⟩

theorem words_of_blanks_last {front : List Char} (nonempty : front ≠ [])
    (whole : ∀ c ∈ front, isBlank c = false) (last : BlanksLast text) :
    ∃ word, words (front ++ text) = [word] := by
  -- By induction along the suffix, of which the word in front takes one character after another up
  -- to the first blank.
  induction text generalizing front with
  | nil => exact ⟨front, by rw [List.append_nil, words_of_word nonempty whole]⟩
  | cons c rest ih =>
    obtain ⟨first, later⟩ := List.pairwise_cons.mp last
    cases own : isBlank c with
    | true =>
      have blanks : ∀ d ∈ rest, isBlank d = true := fun d member => first d member own
      refine ⟨front, ?_⟩
      rw [words_around_blank own, words_of_word nonempty whole, words_of_blanks blanks,
        List.append_nil]
    | false =>
      have longer : ∀ d ∈ front ++ [c], isBlank d = false :=
        List.forall_mem_append.mpr ⟨whole, by simpa using own⟩
      rw [List.append_cons]
      exact ih (by simp) longer later

theorem text_ends_in_suffix (v : Version) : ∃ front, v.text.toList = front ++ v.suffix.toList ∧
    front ≠ [] ∧ ∀ c ∈ front, isBlank c = false := by
  have plain (n : Nat) : ∀ c ∈ digits n, isBlank c = false := digits_have_no (by decide)
  have marks : isBlank 'v' = false ∧ isBlank '.' = false ∧ isBlank '-' = false := by decide
  have numbers : ∀ c ∈ 'v' :: v.spelling.numbers, isBlank c = false := by
    simp only [spelling, Spelling.numbers, List.forall_mem_append, List.forall_mem_cons, marks,
      true_and]
    exact ⟨⟨plain _, plain _⟩, plain _⟩
  rw [text_is_spelled]
  by_cases none : v.suffix = ""
  · refine ⟨'v' :: v.spelling.numbers, ?_, List.cons_ne_nil _ _, numbers⟩
    simp [Spelling.chars, Spelling.tail, spelling, none]
  · refine ⟨'v' :: v.spelling.numbers ++ ['-'], ?_, List.cons_ne_nil _ _, ?_⟩
    · simp [Spelling.chars, Spelling.tail, spelling, none]
    · exact List.forall_mem_append.mpr ⟨numbers, by simp [marks]⟩

theorem read_release_across {text : String} {front back : List Char} {blank : Char}
    (own : text.toList = front ++ blank :: back) (parts : isBlank blank = true)
    (one : words front ≠ []) (two : words back ≠ []) :
    ∃ word, IsUnbroken word ∧ readRelease text = read word := by
  have all : words (front ++ blank :: back) = words front ++ words back := words_around_blank parts
  rw [← own] at all
  obtain ⟨first, second, more, several⟩ :
      ∃ first second more, words text.toList = first :: second :: more := by
    obtain ⟨first, rest, starts⟩ := List.exists_cons_of_ne_nil one
    obtain ⟨next, others, follows⟩ := List.exists_cons_of_ne_nil two
    rw [all, starts, follows]
    cases rest with
    | nil => exact ⟨first, next, others, rfl⟩
    | cons second more => exact ⟨first, second, more ++ next :: others, rfl⟩
  refine ⟨String.ofList second, ?_, read_release_of_words several⟩
  rw [IsUnbroken, String.toList_ofList]
  have listed : second ∈ words text.toList := by simp [several]
  exact word_is_whole listed

theorem suffix_of_word {word : String} (whole : IsUnbroken word) (own : read word = .ok v) :
    IsUnbroken v.suffix := by
  obtain ⟨s, chars, spelled⟩ := read_ok_iff.mp own
  intro c member
  refine whole c ?_
  rw [spelled.suffix] at member
  rw [chars, Spelling.chars, Spelling.tail]
  cases behind : s.suffix with
  | none =>
    rw [behind] at member
    exact absurd member List.not_mem_nil
  | some suffix =>
    rw [behind] at member
    exact List.mem_append_right _ (List.mem_cons_of_mem _ member)

theorem read_release_iff (v : Version) :
    readRelease v.text = .ok v ↔ BlanksLast v.suffix.toList := by
  obtain ⟨front, own, nonempty, whole⟩ := text_ends_in_suffix v
  constructor
  · intro found
    by_contra early
    obtain ⟨start, blank, back, solid, parts, is_blank, member, is_solid⟩ := blank_in_between early
    rw [parts, ← List.append_assoc] at own
    obtain ⟨c, rest, starts⟩ := List.exists_cons_of_ne_nil nonempty
    have one : words (front ++ start) ≠ [] :=
      words_ne_nil (show c ∈ front ++ start by simp [starts]) (whole c (by simp [starts]))
    obtain ⟨word, unbroken, same⟩ :=
      read_release_across own is_blank one (words_ne_nil member is_solid)
    have clean := suffix_of_word unbroken (same.symm.trans found) blank (by simp [parts])
    rw [is_blank] at clean
    cases clean
  · intro last
    obtain ⟨word, single⟩ := words_of_blanks_last nonempty whole last
    rw [← own] at single
    rw [read_release_of_word single, read_of_text]

theorem text_is_unbroken (whole : IsUnbroken v.suffix) : v.text ≠ "" ∧ IsUnbroken v.text := by
  obtain ⟨front, own, nonempty, unbroken⟩ := text_ends_in_suffix v
  constructor
  · intro none
    simp [none, nonempty] at own
  · intro c member
    rw [own] at member
    rcases List.mem_append.mp member with ahead | inside
    · exact unbroken c ahead
    · exact whole c inside

theorem read_behind_name {f : Frame} (proper : f.IsProper) (whole : IsUnbroken v.suffix) :
    readRelease (f.around v.text) = .ok v ∧ readRelease v.text = .ok v := by
  obtain ⟨nonempty, unbroken⟩ := text_is_unbroken whole
  have alone : readRelease v.text = .ok v := by
    rw [read_release_of_word (words_of_word (by simpa using nonempty) unbroken), read_of_text]
  exact ⟨(read_around proper nonempty unbroken).trans alone, alone⟩

end Suffixes

end Version

def Settings.telling (release : String) : Settings → Settings
  | .v2 s => .v2 { s with release := release }
  | .v3 t => .v3 t
  | .v4 s => .v4 { s with release := release }

def Finding.quoting (release : String) : Finding → Finding
  | .unknownRelease _ => .unknownRelease release
  | finding => finding

theorem Validation.release_of_same {one other : String}
    (same : Version.readRelease one = Version.readRelease other) (terms : Terms)
    (expected : Expectation) :
    release { terms with release := some one } expected =
      (release { terms with release := some other } expected).map (Finding.quoting one) := by
  simp only [release, Option.bind_some, same]
  cases Version.readRelease other with
  | error e => rfl
  | ok version =>
    dsimp only
    split
    · rfl
    · rfl

theorem Validation.release_of_version {terms : Terms} {expected : Expectation} {text : String}
    {v : Version} (told : terms.release = some text) (own : Version.readRelease text = .ok v) :
    release terms expected =
      if v.isOlder expected.latest then some (.outdatedRelease v expected.latest) else none := by
  simp [release, told, own]

theorem Validation.check_by_version {one other : String} {v : Version}
    (first : Version.readRelease one = .ok v) (second : Version.readRelease other = .ok v)
    (terms : Terms) (expected : Expectation) (generation : Net.Generation) :
    ∀ check ∈ checks generation, check { terms with release := some one } expected =
      check { terms with release := some other } expected := by
  have same : release { terms with release := some one } expected =
      release { terms with release := some other } expected := by
    rw [release_of_version rfl first, release_of_version rfl second]
  cases generation with
  | v2 =>
    simp only [checks, List.forall_mem_cons]
    exact ⟨rfl, rfl, rfl, rfl, rfl, same, by simp⟩
  | v3 =>
    simp only [checks, List.forall_mem_cons]
    exact ⟨rfl, rfl, rfl, by simp⟩
  | v4 =>
    simp only [checks, List.forall_mem_cons]
    exact ⟨rfl, rfl, rfl, rfl, rfl, same, rfl, by simp⟩

theorem Settings.judged_by_version {expected : Expectation} {one other : String} {v : Version}
    (first : Version.readRelease one = .ok v) (second : Version.readRelease other = .ok v)
    (settings : Settings) :
    (settings.telling one).validate expected = (settings.telling other).validate expected := by
  have checked := Validation.check_by_version first second settings.terms expected
  cases settings with
  | v2 s => exact List.filterMap_congr (checked .v2)
  | v3 t => rfl
  | v4 s => exact List.filterMap_congr (checked .v4)

/-- A version is found in its own text unless something follows a blank of the suffix; and in any
    text that puts a name in front of it, if there is no blank in the suffix at all. Any word behind
    a name is read as the word alone, so that the name makes no difference to the judgement. -/
theorem name_is_immaterial :
    (∀ v : Version, Version.readRelease v.text = .ok v ↔ Version.BlanksLast v.suffix.toList) ∧
      (∀ (f : Version.Frame) (v : Version), f.IsProper → Version.IsUnbroken v.suffix →
        Version.readRelease (f.around v.text) = .ok v ∧
          ∀ (settings : Settings) expected,
            (settings.telling (f.around v.text)).validate expected =
              (settings.telling v.text).validate expected) ∧
      ∀ (f : Version.Frame) word, f.IsProper → word ≠ "" → Version.IsUnbroken word →
        Version.readRelease (f.around word) = Version.readRelease word ∧
          ∀ (terms : Terms) expected,
            Validation.release { terms with release := some (f.around word) } expected =
              (Validation.release { terms with release := some word } expected).map
                (Finding.quoting (f.around word)) := by
  refine ⟨Version.read_release_iff, ?_, ?_⟩
  · intro f v proper whole
    obtain ⟨named, alone⟩ := Version.read_behind_name proper whole
    exact ⟨named, fun settings _ => settings.judged_by_version named alone⟩
  · intro f word proper nonempty whole
    have same := Version.read_around proper nonempty whole
    exact ⟨same, Validation.release_of_same same⟩

theorem candidate_behind_name :
    let f : Version.Frame := ⟨"\u00a0", "hostd", "\u3000 ", "\t", "v9.9.9"⟩
    let v : Version := ⟨1, 2, 3, "rc-1"⟩
    f.IsProper ∧ Version.IsUnbroken v.suffix ∧ Version.IsUnbroken "1.2.3" ∧
      f.around v.text = "\u00a0hostd\u3000 v1.2.3-rc-1\tv9.9.9" ∧
      Version.readRelease (f.around v.text) = .ok v ∧
      Version.readRelease (f.around "1.2.3") = .error (.format "1.2.3") ∧
      ∀ (settings : Settings) expected, (settings.telling (f.around v.text)).validate expected =
        (settings.telling v.text).validate expected := by
  intro f v
  have proper : f.IsProper := ⟨by decide, by decide, by decide, by decide, by decide⟩
  have whole : Version.IsUnbroken v.suffix := by decide
  have bare : Version.IsUnbroken "1.2.3" := by decide
  have text : f.around v.text = "\u00a0hostd\u3000 v1.2.3-rc-1\tv9.9.9" := by decide +kernel
  obtain ⟨_, found, alike⟩ := name_is_immaterial
  obtain ⟨read, judged⟩ := found f v proper whole
  obtain ⟨same, _⟩ := alike f "1.2.3" proper (by decide) bare
  exact ⟨proper, whole, bare, text, read, same.trans (by decide), judged⟩

end HostHealth
