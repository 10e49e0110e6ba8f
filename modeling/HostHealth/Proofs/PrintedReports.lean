import HostHealth.Proofs.ReportTallies
import HostHealth.Proofs.WrittenAddresses

/- A report in its printed text. How a line begins tells whether it is a status line, and of which
   verdict. The lines come back from the text unless a text that the host or a failure has put into
   them breaks a line. -/
namespace HostHealth.CommandLine

open Net Text

/-! How lines begin -/

def Verdict.mark (colored : Bool) (verdict : Verdict) : List Char :=
  (verdict.style.paint colored verdict.name ++ " ").toList

/-- The verdict and the address of a printed line that begins as a status line does. -/
def readStatus? (colored : Bool) (line : List Char) : Option (Verdict × List Char) :=
  [Verdict.pass, .warn, .fail].findSome? fun verdict =>
    (dropLead? (verdict.mark colored) line).map fun address => (verdict, address)

theorem mark_of_colored (verdict : Verdict) : verdict.mark true =
    match verdict with
    | .pass => "\x1b[1;32mPASS\x1b[0m ".toList
    | .warn => "\x1b[1;33mWARN\x1b[0m ".toList
    | .fail => "\x1b[1;31mFAIL\x1b[0m ".toList := by
  cases verdict <;> decide

theorem mark_of_plain (verdict : Verdict) : verdict.mark false =
    match verdict with
    | .pass => "PASS ".toList
    | .warn => "WARN ".toList
    | .fail => "FAIL ".toList := by
  cases verdict <;> decide

theorem read_status_of_mark (colored : Bool) (verdict : Verdict) (rest : List Char) :
    readStatus? colored (verdict.mark colored ++ rest) = some (verdict, rest) := by
  cases colored with
  | true => cases verdict <;> simp [readStatus?, mark_of_colored, dropLead?]
  | false => cases verdict <;> simp [readStatus?, mark_of_plain, dropLead?]

theorem no_status_of_start (colored : Bool) {line : List Char} {c : Char}
    (start : line.head? = some c) (other : c ∉ ['P', 'W', 'F', '\x1b']) :
    readStatus? colored line = none := by
  obtain ⟨rest, rfl⟩ := List.head?_eq_some_iff.mp start
  simp only [List.mem_cons, List.not_mem_nil, or_false, not_or] at other
  obtain ⟨noPass, noWarn, noFail, noEscape⟩ := other
  cases colored with
  | true => simp [readStatus?, mark_of_colored, dropLead?, Ne.symm noEscape]
  | false =>
    simp [readStatus?, mark_of_plain, dropLead?, Ne.symm noPass, Ne.symm noWarn, Ne.symm noFail]

theorem no_status_of_rule (colored : Bool) (mark : Char) :
    readStatus? colored ((Line.rule mark).text colored).toList = none := by
  cases colored with
  | true =>
    simp [readStatus?, mark_of_colored, dropLead?, Line.text, Style.paint, Style.opening,
      Color.plain, Color.code]
  | false =>
    by_cases space : ' ' = mark
    · simp [readStatus?, mark_of_plain, dropLead?, Line.text, Style.paint, ← space]
    · simp [readStatus?, mark_of_plain, dropLead?, Line.text, Style.paint, space]

theorem version_begins (colored : Bool) (text : String) :
    ((Line.version text).text colored).toList.head? = some 'V' := by
  by_cases unknown : text = ""
  · simp [Line.text, unknown]
  · simp [Line.text]

theorem status_of_line (colored : Bool) (line : Line) :
    readStatus? colored (line.text colored).toList =
      line.status?.map fun status => (status.1, status.2.text.toList) := by
  cases line with
  | status verdict address =>
    have text : ((Line.status verdict address).text colored).toList =
        verdict.mark colored ++ address.text.toList := by
      simp [Line.text, Verdict.mark]
    rw [text, read_status_of_mark]
    rfl
  | rule mark => exact no_status_of_rule colored mark
  | title => cases colored <;> decide
  | publicKey key =>
    cases colored with
    | true => simp [Line.text, Line.status?, readStatus?, mark_of_colored, dropLead?]
    | false => simp [Line.text, Line.status?, readStatus?, mark_of_plain, dropLead?]
  | version text => exact no_status_of_start colored (version_begins colored text) (by decide)
  | blank => cases colored <;> decide
  | resolved addresses =>
    exact no_status_of_start colored (c := ' ') (by simp [Line.text]) (by decide)
  | timings stages =>
    exact no_status_of_start colored (c := ' ') (by simp [Line.text]) (by decide)
  | error text => exact no_status_of_start colored (c := ' ') (by simp [Line.text]) (by decide)
  | warning text => exact no_status_of_start colored (c := ' ') (by simp [Line.text]) (by decide)
  | summary passed failed total =>
    exact no_status_of_start colored (c := 'S') (by simp [Line.text]) (by decide)

/-! Lines of the text -/

def IsOneLine (text : String) : Prop := '\n' ∉ text.toList

instance : DecidablePred IsOneLine :=
  fun text => inferInstanceAs (Decidable ('\n' ∉ text.toList))

def printedLines (text : String) : List (List Char) :=
  (pieces (· == '\n') text.toList).dropLast

section OneLine

variable {text : String}

@[simp] theorem one_line_append {front back : String} :
    IsOneLine (front ++ back) ↔ IsOneLine front ∧ IsOneLine back := by
  simp [IsOneLine]

theorem one_line_of_chars {chars : List Char} (plain : ∀ c ∈ chars, (c == '\n') = false) :
    IsOneLine (String.ofList chars) := by
  rw [IsOneLine, String.toList_ofList]
  exact absent_of_no_char plain

@[simp] theorem decimal_is_one_line (n : Nat) : IsOneLine (decimal n) :=
  one_line_of_chars (digits_have_no (by decide))

@[simp] theorem ip_is_one_line (ip : Ip) : IsOneLine ip.text := by
  cases ip with
  | v4 ip => exact one_line_of_chars (ip.chars_have_no (by decide) rfl)
  | v6 ip => exact one_line_of_chars (ip.chars_have_no (by decide) rfl rfl)

@[simp] theorem key_is_one_line (key : PublicKey) : IsOneLine key.text := by
  have plain : ∀ d < 16, (hexChar d == '\n') = false := by decide
  have digits : IsOneLine (String.ofList (Hex.encode key.bytes)) := by
    apply one_line_of_chars
    intro c member
    obtain ⟨n, small, rfl⟩ := Hex.mem_encoded member
    exact plain n small
  exact one_line_append.mpr ⟨by decide, digits⟩

@[simp] theorem span_is_one_line (span : Nat) : IsOneLine (Span.brief span) := by
  have plain (n : Nat) : ∀ c ∈ digits n, (c == '\n') = false := digits_have_no (by decide)
  unfold Span.brief
  split
  · simp +decide
  · rw [one_line_append]
    refine ⟨one_line_of_chars ?_, by decide⟩
    simp only [padded, List.forall_mem_append, List.forall_mem_cons]
    exact ⟨plain _, rfl, by simp, plain _⟩

@[simp] theorem paint_is_one_line (style : Style) (colored : Bool) (own : IsOneLine text) :
    IsOneLine (style.paint colored text) := by
  have opening : '\n' ∉ style.opening := by
    obtain ⟨color, bold⟩ := style
    cases color <;> cases bold <;> decide
  have reopened (chars : List Char) (plain : '\n' ∉ chars) : '\n' ∉ style.reopened chars := by
    induction chars using Style.reopened.induct with
    | case1 rest ih =>
      simp only [Style.reopened]
      simp_all [Style.reset]
    | case2 c rest other ih =>
      rw [Style.reopened]
      · simp_all
      · exact other
    | case3 => exact plain
  cases colored with
  | false => exact own
  | true => simp [Style.paint, IsOneLine, opening, reopened _ own, Style.reset]

theorem intercalate_is_one_line {separator : String} {parts : List String}
    (between : IsOneLine separator) (each : ∀ part ∈ parts, IsOneLine part) :
    IsOneLine (separator.intercalate parts) := by
  induction parts with
  | nil => simp +decide
  | cons part rest ih =>
    obtain ⟨first, later⟩ := List.forall_mem_cons.mp each
    cases rest with
    | nil => simpa using first
    | cons next rest =>
      rw [String.intercalate_cons_cons]
      simp [first, between, ih later]

theorem printed_lines_of_lines {lines : List String} (each : ∀ line ∈ lines, IsOneLine line) :
    printedLines (String.join (lines.map fun line => line ++ "\n")) =
      lines.map String.toList := by
  have parts : pieces (· == '\n') (String.join (lines.map fun line => line ++ "\n")).toList =
      lines.map String.toList ++ [[]] := by
    induction lines with
    | nil => rfl
    | cons line rest ih =>
      obtain ⟨first, later⟩ := List.forall_mem_cons.mp each
      have whole : ∀ c ∈ line.toList, (c == '\n') = false := by
        intro c member
        rw [beq_eq_false_iff_ne]
        rintro rfl
        exact first member
      have broken : (String.join ((line :: rest).map fun line => line ++ "\n")).toList =
          line.toList ++ '\n' :: (String.join (rest.map fun line => line ++ "\n")).toList := by
        simp [String.join_cons]
      rw [broken, pieces_append whole rfl, ih later, List.map_cons, List.cons_append]
  rw [printedLines, parts, List.dropLast_concat]

end OneLine

def Line.texts : Line → List String
  | .rule mark => [String.singleton mark]
  | .version text => [text]
  | .status _ address => [address.address]
  | .timings stages => stages.map Prod.fst
  | .error text => [text]
  | .warning text => [text]
  | _ => []

theorem line_is_one_line (colored : Bool) (line : Line)
    (each : ∀ text ∈ line.texts, IsOneLine text) : IsOneLine (line.text colored) := by
  cases line with
  | rule mark =>
    apply paint_is_one_line
    simp_all [Line.texts, IsOneLine]
  | title => exact paint_is_one_line _ _ (by decide)
  | publicKey key => simp +decide [Line.text]
  | version text =>
    have own : IsOneLine text := each text List.mem_cons_self
    by_cases unknown : text = ""
    · simp +decide [Line.text, unknown]
    · simpa +decide [Line.text] using own
  | blank => simp +decide [Line.text]
  | status verdict address =>
    have own : IsOneLine address.address := each _ List.mem_cons_self
    have verdictName : IsOneLine verdict.name := by cases verdict <;> decide
    have protocolName : IsOneLine address.protocol.name := by cases address.protocol <;> decide
    simp +decide [Line.text, NetAddress.text, own, verdictName, protocolName]
  | resolved addresses =>
    have ips : IsOneLine (", ".intercalate (addresses.map Ip.text)) :=
      intercalate_is_one_line (by decide) (by simp)
    simp +decide [Line.text, ips]
  | timings stages =>
    refine one_line_append.mpr ⟨by decide, ?_⟩
    apply paint_is_one_line
    apply intercalate_is_one_line (by decide)
    intro part member
    obtain ⟨stage, listed, rfl⟩ := List.mem_map.mp member
    have name : IsOneLine stage.1 := each _ (List.mem_map_of_mem listed)
    simp +decide [name]
  | error text =>
    have own : IsOneLine text := each text List.mem_cons_self
    simp +decide [Line.text, own]
  | warning text =>
    have own : IsOneLine text := each text List.mem_cons_self
    simp +decide [Line.text, own]
  | summary passed failed total => simp +decide [Line.text]

section Reports

variable {report : HostReport}

/-- No text that the host or a failure has put into the report breaks a line. -/
def IsUnbroken (report : HostReport) : Prop :=
  IsOneLine report.version ∧ ∀ probe ∈ report.all, IsOneLine probe.netAddress.address ∧
    ∀ text ∈ probe.errors ++ probe.warnings, IsOneLine text

instance : DecidablePred IsUnbroken :=
  fun report => inferInstanceAs (Decidable (IsOneLine report.version ∧ ∀ probe ∈ report.all,
    IsOneLine probe.netAddress.address ∧ ∀ text ∈ probe.errors ++ probe.warnings, IsOneLine text))

theorem stage_is_one_line (probe : ProbeReport) :
    ∀ stage ∈ passedStages probe, IsOneLine stage.1 := by
  intro stage member
  simp only [passedStages, List.mem_map, List.mem_filter] at member
  obtain ⟨known, ⟨listed, _⟩, rfl⟩ := member
  revert known
  simp +decide

theorem texts_of_details {probe : ProbeReport}
    (own : ∀ text ∈ probe.errors ++ probe.warnings, IsOneLine text) :
    ∀ line ∈ details probe, ∀ text ∈ line.texts, IsOneLine text := by
  intro line member
  rcases mem_details member with rfl | rfl | ⟨text, listed, rfl⟩ | ⟨text, listed, rfl⟩ | rfl
  · simp [Line.texts]
  · simpa [Line.texts] using stage_is_one_line probe
  · simpa [Line.texts] using own text (List.mem_append_left _ listed)
  · simpa [Line.texts] using own text (List.mem_append_right _ listed)
  · simp [Line.texts]

theorem texts_of_unbroken (unbroken : IsUnbroken report) :
    ∀ line ∈ reportLines report, ∀ text ∈ line.texts, IsOneLine text := by
  obtain ⟨version, probes⟩ := unbroken
  intro line member
  rw [report_lines_eq, List.mem_append, List.mem_append] at member
  rcases member with (top | inside) | bottom
  · revert line
    simp +decide [heading, Line.texts, version]
  · obtain ⟨probe, listed, own⟩ := List.mem_flatMap.mp inside
    obtain ⟨address, texts⟩ := probes probe listed
    rcases List.mem_cons.mp own with rfl | below
    · simpa [Line.texts] using address
    · exact texts_of_details texts line below
  · revert line
    simp +decide [Line.texts]

theorem printed_lines_of_report (colored : Bool) (unbroken : IsUnbroken report) :
    printedLines (reportText colored report) =
      (reportLines report).map fun line => (line.text colored).toList := by
  have whole : ∀ text ∈ (reportLines report).map (Line.text colored), IsOneLine text := by
    intro text member
    obtain ⟨line, listed, rfl⟩ := List.mem_map.mp member
    exact line_is_one_line colored line (texts_of_unbroken unbroken line listed)
  have lines := printed_lines_of_lines whole
  simpa [reportText, Function.comp_def] using lines

theorem statuses_of_text (colored : Bool) (unbroken : IsUnbroken report) :
    (printedLines (reportText colored report)).filterMap (readStatus? colored) =
      report.all.map fun probe => (.ofProbe probe, probe.netAddress.text.toList) := by
  have read : readStatus? colored ∘ (fun line : Line => (line.text colored).toList) =
      fun line => line.status?.map fun status => (status.1, status.2.text.toList) :=
    funext (status_of_line colored)
  rw [printed_lines_of_report colored unbroken, List.filterMap_map, read, ← List.map_filterMap]
  change (statuses (reportLines report)).map _ = _
  rw [statuses_of_report, List.map_map]
  rfl

end Reports

end HostHealth.CommandLine
