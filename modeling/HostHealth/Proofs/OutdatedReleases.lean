import HostHealth.CommandLine.Run
import HostHealth.Proofs.ReleaseTexts
import HostHealth.Proofs.Verdicts
import HostHealth.Proofs.VersionOrder
import HostHealth.Proofs.WrittenJson

/- What the order of versions decides: the warning of an outdated release, and what the command line
   says of two releases in words, by its label and in its JSON. -/
namespace HostHealth

open Net Text

def Settings.IsOutdated (settings : Settings) (expected : Expectation) : Prop :=
  ∃ reported, Finding.outdatedRelease reported expected.latest ∈ settings.validate expected

section Warnings

variable {settings other : Settings} {expected later : Expectation} {text : String}

theorem Settings.release_of_terms (settings : Settings) :
    settings.terms.release = settings.release := by
  cases settings <;> rfl

theorem Settings.release_is_checked (told : settings.release = some text) :
    Validation.release ∈ Validation.checks settings.generation := by
  cases settings with
  | v2 s => simp [Settings.generation, Validation.checks]
  | v3 t => cases told
  | v4 s => simp [Settings.generation, Validation.checks]

theorem Settings.is_outdated_iff : settings.IsOutdated expected ↔
    ∃ text reported, settings.release = some text ∧ Version.readRelease text = .ok reported ∧
      reported.compare expected.latest = .lt := by
  constructor
  · intro outdated
    obtain ⟨reported, member⟩ := outdated
    obtain ⟨⟨text, told, parsed⟩, _⟩ := finding_quotes member
    have unmet := (found_iff_unmet settings expected .release).mp ⟨_, member, rfl⟩
    refine ⟨text, reported, settings.release_of_terms ▸ told, parsed, ?_⟩
    by_contra upToDate
    apply unmet
    rw [← terms_meet_iff]
    intro other toldToo
    cases told.symm.trans toldToo
    exact ⟨reported, parsed, upToDate⟩
  · intro behind
    obtain ⟨text, reported, told, parsed, below⟩ := behind
    have termed := settings.release_of_terms.trans told
    have found : Validation.release settings.terms expected =
        some (.outdatedRelease reported expected.latest) := by
      rw [Validation.release_of_version termed parsed,
        if_pos (Version.is_older_iff.mpr below)]
    exact ⟨reported, List.mem_filterMap.mpr ⟨_, Settings.release_is_checked told, found⟩⟩

theorem outdated_by_later (outdated : settings.IsOutdated expected)
    (risen : expected.latest.compare later.latest ≠ .gt) : settings.IsOutdated later := by
  obtain ⟨text, reported, told, parsed, below⟩ := Settings.is_outdated_iff.mp outdated
  apply Settings.is_outdated_iff.mpr
  refine ⟨text, reported, told, parsed, ?_⟩
  rw [Version.compare_lt_iff_rank] at below ⊢
  rw [Version.not_above_iff_rank] at risen
  omega

theorem outdated_below {lower : String} {reported lesser : Version}
    (outdated : settings.IsOutdated expected) (told : settings.release = some text)
    (parsed : Version.readRelease text = .ok reported) (toldLower : other.release = some lower)
    (parsedLower : Version.readRelease lower = .ok lesser)
    (notAbove : lesser.compare reported ≠ .gt) : other.IsOutdated expected := by
  obtain ⟨_, _, same, alike, below⟩ := Settings.is_outdated_iff.mp outdated
  cases told.symm.trans same
  cases parsed.symm.trans alike
  apply Settings.is_outdated_iff.mpr
  refine ⟨lower, lesser, toldLower, parsedLower, ?_⟩
  rw [Version.compare_lt_iff_rank] at below ⊢
  rw [Version.not_above_iff_rank] at notAbove
  omega

end Warnings

namespace CommandLine

def IsLabelled (label output : String) : Prop := (label ++ " ").toList <+: output.toList

/-- The last words of the output tell how the version before them compares with the latest. -/
def Concludes (verdict : String) (latest : Version) (output : String) : Prop :=
  (" is " ++ verdict ++ " " ++ latest.text ++ "\n").toList <:+ output.toList

def outdatedLabel (colored : Bool) : String := Color.yellow.bold.paint colored "OUTDATED"

section Comparisons

variable {current latest : String} {a b : Version}

theorem label_of_outdated (colored : Bool) (a b : Version) :
    IsLabelled (outdatedLabel colored) (versionText colored a b) ↔ a.isOlder b = true := by
  unfold IsLabelled versionText outdatedLabel
  simp only [String.append_assoc]
  cases own : a.isOlder b with
  | true => simp
  | false =>
    have painted : (Color.yellow.bold.paint true "OUTDATED").toList =
        "\x1b[1;33mOUTDATED\x1b[0m".toList := by decide
    have other : (Color.green.bold.paint true "OK").toList = "\x1b[1;32mOK\x1b[0m".toList := by
      decide
    cases colored with
    | true => simp [painted, other]
    | false => simp [Style.paint]

def verdicts : List String := ["older than", "equivalent to", "newer than"]

theorem verdict_listed (a b : Version) : versionVerdict a b ∈ verdicts := by
  unfold versionVerdict
  cases a.compare b <;> decide

theorem verdict_ends_apart : ∀ own ∈ verdicts, ∀ other ∈ verdicts,
    ∀ front : List Char, (" is " ++ own).toList <:+ front ++ (" is " ++ other).toList →
      other = own := by
  unfold verdicts
  simp [← List.reverse_prefix]

theorem version_text_ends (colored : Bool) (a b : Version) : ∃ front : List Char,
    (versionText colored a b).toList =
      front ++ (" is " ++ versionVerdict a b).toList ++ (" " ++ b.text ++ "\n").toList := by
  have parts : ∃ front : String, versionText colored a b =
      front ++ (" is " ++ versionVerdict a b) ++ (" " ++ b.text ++ "\n") := by
    unfold versionText
    exact ⟨_ ++ " " ++ a.text, by simp only [String.append_assoc]; rfl⟩
  obtain ⟨front, own⟩ := parts
  exact ⟨front.toList, by simp only [own, String.toList_append]⟩

theorem concludes_iff {verdict : String} (listed : verdict ∈ verdicts) (colored : Bool)
    (a b : Version) :
    Concludes verdict b (versionText colored a b) ↔ versionVerdict a b = verdict := by
  obtain ⟨front, parts⟩ := version_text_ends colored a b
  have ending : (" is " ++ verdict ++ " " ++ b.text ++ "\n").toList =
      (" is " ++ verdict).toList ++ (" " ++ b.text ++ "\n").toList := by
    simp only [String.toList_append, List.append_assoc]
  unfold Concludes
  rw [parts, ending]
  constructor
  · intro concluded
    have words := List.suffix_append_self_iff.mp concluded
    exact verdict_ends_apart verdict listed _ (verdict_listed a b) front words
  · intro same
    rw [same, List.append_assoc]
    exact List.suffix_append front _

theorem older_iff (a b : Version) : versionVerdict a b = "older than" ↔ a.isOlder b = true := by
  unfold versionVerdict Version.isOlder
  cases a.compare b <;> decide

theorem verdict_of_exchange (a b : Version) :
    (versionVerdict b a = "newer than" ↔ versionVerdict a b = "older than") ∧
      (versionVerdict b a = "older than" ↔ versionVerdict a b = "newer than") := by
  unfold versionVerdict
  rw [Version.compare_swap a b]
  cases a.compare b <;> decide

theorem flag_of_json (a b : Version) :
    (Json.read (versionJson a b).writeSpread).bind (Json.member? "outdated") =
      some (.bool (a.isOlder b)) := by
  have inOrder : (versionJson a b).sorted = versionJson a b := by
    unfold versionJson Json.sorted
    simp only [Json.sortedMembers, Json.sorted]
    rw [List.mergeSort_of_pairwise (by simp)]
  have plain : (versionJson a b).isPlain = true := rfl
  unfold Json.writeSpread
  rw [inOrder, (Json.read_of_written plain).2]
  rfl

theorem compared_texts (colored : Bool) (first : Version.readRelease current = .ok a)
    (second : Version.readRelease latest = .ok b) :
    compareVersions colored false current latest = .ok (.printed (versionText colored a b)) ∧
      compareVersions colored true current latest =
        .ok (.printed ((versionJson a b).writeSpread ++ "\n")) := by
  unfold compareVersions
  simp [first, second]

theorem releases_are_compared (colored : Bool) (first : Version.readRelease current = .ok a)
    (second : Version.readRelease latest = .ok b) :
    ∃ words written back,
      compareVersions colored false current latest = .ok (.printed words) ∧
      compareVersions colored true current latest = .ok (.printed (written ++ "\n")) ∧
      compareVersions colored false latest current = .ok (.printed back) ∧
      (Concludes "older than" b words ↔ a.compare b = .lt) ∧
      (Concludes "older than" b words ↔
        (Json.read written).bind (Json.member? "outdated") = some (.bool true)) ∧
      (Concludes "older than" b words ↔ IsLabelled (outdatedLabel colored) words) ∧
      (Concludes "newer than" a back ↔ Concludes "older than" b words) ∧
      (Concludes "older than" a back ↔ Concludes "newer than" b words) := by
  have older : "older than" ∈ verdicts := by decide
  have newer : "newer than" ∈ verdicts := by decide
  have texts := compared_texts colored first second
  have backwards := compared_texts colored second first
  have exchange := verdict_of_exchange a b
  refine ⟨_, _, _, texts.1, texts.2, backwards.1, ?_⟩
  simp only [concludes_iff older, concludes_iff newer, flag_of_json, label_of_outdated, exchange,
    older_iff, Version.is_older_iff]
  simp [Version.isOlder]

end Comparisons

end CommandLine

open CommandLine

/-- The comparison of versions is a total preorder, by their numbers first and then by the lack of a
    suffix, and the two tests of equality and precedence go by it. Sorting follows it and leaves
    equals as they came. The warning of an outdated release follows it in both releases. The command
    line says one thing of two releases in three ways, and the converse of the two exchanged. -/
theorem versions_are_ordered :
    (∀ a b c : Version, b.compare a = (a.compare b).swap ∧
      (a.compare b ≠ .gt → b.compare c ≠ .gt → a.compare c ≠ .gt) ∧
      (a.isLevel b = true ↔ a.compare b = .eq) ∧
      (a.isOlder b = true ↔ a.compare b = .lt) ∧
      (a.compare b = .lt ↔
        a.LowerNumbers b ∨ a.SameNumbers b ∧ a.suffix ≠ "" ∧ b.suffix = "") ∧
      (a.compare b = .eq ↔ a.SameNumbers b ∧ (a.suffix = "" ↔ b.suffix = ""))) ∧
    (∀ versions sorted, Version.SortedFrom versions sorted ↔ sorted = Version.sort versions) ∧
    (∀ (settings : Settings) expected, settings.IsOutdated expected ↔
      ∃ text reported, settings.release = some text ∧
        Version.readRelease text = .ok reported ∧ reported.compare expected.latest = .lt) ∧
    (∀ (settings : Settings) (expected later : Expectation), settings.IsOutdated expected →
      expected.latest.compare later.latest ≠ .gt → settings.IsOutdated later) ∧
    (∀ (settings other : Settings) expected text lower reported lesser,
      settings.IsOutdated expected →
      settings.release = some text → Version.readRelease text = .ok reported →
      other.release = some lower → Version.readRelease lower = .ok lesser →
      lesser.compare reported ≠ .gt → other.IsOutdated expected) ∧
    (∀ colored current latest a b, Version.readRelease current = .ok a →
      Version.readRelease latest = .ok b →
      ∃ words written back,
        compareVersions colored false current latest = .ok (.printed words) ∧
        compareVersions colored true current latest = .ok (.printed (written ++ "\n")) ∧
        compareVersions colored false latest current = .ok (.printed back) ∧
        (Concludes "older than" b words ↔ a.compare b = .lt) ∧
        (Concludes "older than" b words ↔
          (Json.read written).bind (Json.member? "outdated") = some (.bool true)) ∧
        (Concludes "older than" b words ↔ IsLabelled (outdatedLabel colored) words) ∧
        (Concludes "newer than" a back ↔ Concludes "older than" b words) ∧
        (Concludes "older than" a back ↔ Concludes "newer than" b words)) := by
  refine ⟨?_, fun _ _ => Version.sorted_from_iff, fun _ _ => Settings.is_outdated_iff, ?_, ?_, ?_⟩
  · intro a b c
    exact ⟨Version.compare_swap a b, Version.not_above_trans, Version.is_level_iff,
      Version.is_older_iff, Version.compare_lt_iff, Version.compare_eq_iff⟩
  · intro settings expected later outdated risen
    exact outdated_by_later outdated risen
  · intro settings other expected text lower reported lesser outdated told parsed toldLower
      parsedLower notAbove
    exact outdated_below outdated told parsed toldLower parsedLower notAbove
  · intro colored current latest a b first second
    exact releases_are_compared colored first second

theorem outdated_below_candidate :
    let own : Settings := .v4
      { acceptingContracts := true
        maxCollateral := ⟨100, by decide⟩
        maxContractDuration := 4320
        release := "hostd v1.9.0"
        netAddress := none
        prices := ⟨⟨10, by decide⟩, ⟨25, by decide⟩, 1000⟩ }
    let candidate : Expectation :=
      { latest := ⟨1, 10, 0, "rc"⟩, tipHeight := 1000, dialed := "good.example:9984" }
    let final : Expectation := { candidate with latest := ⟨1, 10, 0, ""⟩ }
    own.IsOutdated candidate ∧ own.IsOutdated final ∧ (own.telling "v1.9.0-rc1").IsOutdated final ∧
      ∃ words back, compareVersions true false "hostd v1.9.0" "v1.10.0" = .ok (.printed words) ∧
        compareVersions true false "v1.10.0" "hostd v1.9.0" = .ok (.printed back) ∧
        Concludes "older than" ⟨1, 10, 0, ""⟩ words ∧ IsLabelled (outdatedLabel true) words ∧
        Concludes "newer than" ⟨1, 9, 0, ""⟩ back := by
  intro own candidate final
  obtain ⟨_, _, outdated, later, below, compared⟩ := versions_are_ordered
  have first : own.IsOutdated candidate :=
    (outdated own candidate).mpr ⟨"hostd v1.9.0", ⟨1, 9, 0, ""⟩, rfl, by decide, by decide⟩
  have second : own.IsOutdated final := later own candidate final first (by decide)
  have lower : (own.telling "v1.9.0-rc1").IsOutdated final :=
    below own _ final "hostd v1.9.0" "v1.9.0-rc1" ⟨1, 9, 0, ""⟩ ⟨1, 9, 0, "rc1"⟩ second rfl
      (by decide) rfl (by decide) (by decide)
  obtain ⟨words, _, back, inWords, _, inBack, older, _, label, newer, _⟩ :=
    compared true "hostd v1.9.0" "v1.10.0" ⟨1, 9, 0, ""⟩ ⟨1, 10, 0, ""⟩ (by decide) (by decide)
  have concluded := older.mpr (by decide)
  exact ⟨first, second, lower, words, back, inWords, inBack, concluded, label.mp concluded,
    newer.mpr concluded⟩

end HostHealth
