import HostHealth.Probe.Report
import HostHealth.Proofs.HeldNumbers
import HostHealth.Proofs.WrittenAddresses
import HostHealth.Proofs.WrittenJson

/- A report that has been written comes back from its text, with its lengths of time in whole
   milliseconds. The settings in it name no generation. They are told apart by the members that the
   older records need and the others lack, so that none of them is taken for another. -/
namespace HostHealth

open Net

namespace Json

theorem word_of_word (n : UInt64) : (word n).asWord = some n := by
  have bound : n.toNat < UInt64.size := n.toNat_lt
  simp [word, asWord, asNatural, bound]

theorem list_of_array {α β : Type} {read : Json → Option β} {write : α → Json} {back : α → β}
    (each : ∀ value, read (write value) = some (back value)) (values : List α) :
    asList read (.array (values.map write)) = some (values.map back) := by
  unfold asList
  dsimp only
  induction values with
  | nil => rfl
  | cons value rest ih =>
    rw [List.map_cons, List.mapM_cons, each, ih]
    rfl

theorem texts_of_texts (values : List String) : asList asText (texts values) = some values := by
  have read := list_of_array (fun text => (rfl : asText (.text text) = some text)) values
  rwa [List.map_id'] at read

theorem optional_of_present {α : Type} {read : Json → Option α} {json : Json} {value : α}
    (present : json ≠ .null) (own : read json = some value) :
    asOptional read json = some (some value) := by
  rw [asOptional, own]
  · rfl
  · exact present

theorem plain_array {α : Type} {write : α → Json} (each : ∀ value, (write value).isPlain = true)
    (values : List α) : (Json.array (values.map write)).isPlain = true := by
  induction values with
  | nil => rfl
  | cons value rest ih =>
    change (isPlain (write value) && arePlain (rest.map write)) = true
    rw [each, Bool.true_and]
    exact ih

end Json

theorem Currency.of_to_json (c : Currency) : ofJson c.toJson = some c := c.read_of_text

theorem SettingsV2.of_to_json (s : SettingsV2) : ofJson s.toJson = some s := by
  simp [ofJson, toJson, Json.fields, Json.fieldOf, Json.valuesOf, Json.asBool, Json.asText,
    Currency.of_to_json, Json.word_of_word]

theorem PriceTable.of_to_json (t : PriceTable) : ofJson t.toJson = some t := by
  simp [ofJson, toJson, Json.fields, Json.fieldOf, Json.valuesOf, Currency.of_to_json,
    Json.word_of_word]

theorem Prices.of_to_json (p : Prices) : ofJson p.toJson = some p := by
  simp [ofJson, toJson, Json.fields, Json.fieldOf, Json.valuesOf, Currency.of_to_json,
    Json.word_of_word]

theorem SettingsV4.of_to_json (s : SettingsV4) : ofJson s.toJson = some s := by
  obtain ⟨accepting, maxCollateral, duration, release, address, prices⟩ := s
  cases address with
  | none =>
    simp [ofJson, toJson, Json.fields, Json.fieldOf, Json.valuesOf, Json.asBool, Json.asText,
      Json.orDefault, Currency.of_to_json, Json.word_of_word, Prices.of_to_json]
  | some address =>
    simp [ofJson, toJson, Json.fields, Json.fieldOf, Json.valuesOf, Json.asBool, Json.asText,
      Json.orDefault, Json.asOptional, Currency.of_to_json, Json.word_of_word, Prices.of_to_json]

namespace Settings

theorem newer_is_no_v2 (s : Settings) (newer : s.generation ≠ .v2) :
    SettingsV2.ofJson s.toJson = none := by
  cases s with
  | v2 s => exact absurd rfl newer
  | v3 t =>
    simp [SettingsV2.ofJson, toJson, PriceTable.toJson, Json.fields, Json.fieldOf, Json.valuesOf]
  | v4 s =>
    obtain ⟨accepting, maxCollateral, duration, release, address, prices⟩ := s
    cases address <;>
      simp [SettingsV2.ofJson, toJson, SettingsV4.toJson, Json.fields, Json.fieldOf, Json.valuesOf]

theorem v4_is_no_table (s : SettingsV4) : PriceTable.ofJson s.toJson = none := by
  obtain ⟨accepting, maxCollateral, duration, release, address, prices⟩ := s
  cases address <;>
    simp [PriceTable.ofJson, SettingsV4.toJson, Json.fields, Json.fieldOf, Json.valuesOf]

theorem of_to_json (s : Settings) : ofJson s.toJson = some s := by
  unfold ofJson
  cases s with
  | v2 s =>
    change ((SettingsV2.ofJson s.toJson).map v2 <|> _ <|> _) = _
    rw [SettingsV2.of_to_json]
    rfl
  | v3 t =>
    rw [newer_is_no_v2 (.v3 t) nofun]
    change ((none : Option SettingsV2).map v2 <|> (PriceTable.ofJson t.toJson).map v3 <|> _) = _
    rw [PriceTable.of_to_json]
    rfl
  | v4 s =>
    rw [newer_is_no_v2 (.v4 s) nofun]
    change ((none : Option SettingsV2).map v2 <|> (PriceTable.ofJson s.toJson).map v3 <|>
      (SettingsV4.ofJson s.toJson).map v4) = _
    rw [v4_is_no_table, SettingsV4.of_to_json]
    rfl

theorem word_is_holdable (n : UInt64) (room : Nat) : (Json.word n).isHoldable room = true := by
  have fits := n.toNat_lt
  exact (Json.natural_range n.toNat room).1 (by omega)

theorem to_json_is_holdable (s : Settings) {room : Nat} (two : 2 ≤ room) :
    s.toJson.isHoldable room = true := by
  have notZero : room ≠ 0 ∧ room - 1 ≠ 0 := by omega
  cases s with
  | v2 s =>
    simp [toJson, SettingsV2.toJson, Json.isHoldable, Json.membersHoldable, Currency.toJson,
      word_is_holdable, notZero]
  | v3 t =>
    simp [toJson, PriceTable.toJson, Json.isHoldable, Json.membersHoldable, Currency.toJson,
      word_is_holdable, notZero]
  | v4 s =>
    obtain ⟨accepting, maxCollateral, duration, release, address, prices⟩ := s
    cases address <;>
      simp [toJson, SettingsV4.toJson, Prices.toJson, Json.isHoldable, Json.membersHoldable,
        Currency.toJson, word_is_holdable, notZero]

theorem of_nested_json (s : Settings) {outside : Nat} (shallow : outside ≤ 125) :
    ofNestedJson outside s.toJson = some s := by
  have room : 2 ≤ maxNesting - outside := by
    unfold maxNesting
    omega
  rw [ofNestedJson, if_pos (to_json_is_holdable s room), of_to_json]

theorem to_json_is_present (s : Settings) : s.toJson ≠ .null := by
  cases s <;> exact Json.noConfusion

theorem to_json_is_plain (s : Settings) : s.toJson.isPlain = true := by
  cases s with
  | v2 s => rfl
  | v3 t => rfl
  | v4 s =>
    obtain ⟨accepting, maxCollateral, duration, release, address, prices⟩ := s
    cases address <;> rfl

end Settings

theorem Net.Ip.of_to_json (ip : Ip) : ofJson ip.toJson = some ip := ip.read_of_text

theorem Net.PublicKey.of_to_json (key : PublicKey) : ofJson key.toJson = some key := by
  change (read key.text).toOption = some key
  rw [key.read_of_text]
  rfl

theorem Net.NetAddress.of_to_json (a : NetAddress) : ofJson a.toJson = some a := by
  simp [ofJson, toJson, Json.fields, Json.fieldOf, Json.valuesOf, Json.asText, Protocol.ofJson,
    Protocol.toJson, Json.asTag, Protocol.of_name]

namespace ProbeReport

def truncated (report : ProbeReport) : ProbeReport :=
  { report with
    dialTime := Span.truncated report.dialTime
    handshakeTime := Span.truncated report.handshakeTime
    scanTime := Span.truncated report.scanTime }

theorem read_millis_of_data (span : Nat) :
    readMillis (.natural (Span.dataMillis span)) = some (Span.truncated span) := by
  have fits := Span.data_millis_fits span
  simp [readMillis, Json.asNatural, fits, Span.truncated_eq_data]

theorem of_nested_json (report : ProbeReport) {outside : Nat} (shallow : outside ≤ 124) :
    ofNestedJson outside report.toJson = some report.truncated := by
  obtain ⟨address, resolved, connected, dialTime, handshake, handshakeTime, scanned, scanTime,
    settings, errors, warnings⟩ := report
  have ips : Json.asList Ip.ofJson (.array (resolved.map Ip.toJson)) = some resolved := by
    have read := Json.list_of_array Ip.of_to_json resolved
    rwa [List.map_id'] at read
  cases settings with
  | none =>
    simp [ofNestedJson, toJson, truncated, fieldNames, Json.fields, Json.fieldOf, Json.valuesOf,
      Json.asBool, Json.orDefault, NetAddress.of_to_json, read_millis_of_data, ips,
      Json.texts_of_texts]
  | some settings =>
    have nested := Json.optional_of_present settings.to_json_is_present
      (settings.of_nested_json (by omega : outside + 1 ≤ 125))
    simp [ofNestedJson, toJson, truncated, fieldNames, Json.fields, Json.fieldOf, Json.valuesOf,
      Json.asBool, Json.orDefault, NetAddress.of_to_json, read_millis_of_data, ips,
      Json.texts_of_texts, nested]

theorem to_json_of_truncated (report : ProbeReport) : report.truncated.toJson = report.toJson := by
  unfold toJson truncated
  simp only [Span.data_millis_of_truncated]

theorem to_json_is_plain (report : ProbeReport) : report.toJson.isPlain = true := by
  obtain ⟨address, resolved, connected, dialTime, handshake, handshakeTime, scanned, scanTime,
    settings, errors, warnings⟩ := report
  have texts (values : List String) : (Json.texts values).isPlain = true :=
    Json.plain_array (fun _ => rfl) values
  have ips : (Json.array (resolved.map Ip.toJson)).isPlain = true :=
    Json.plain_array (fun _ => rfl) resolved
  cases settings with
  | none =>
    simpa [toJson, Json.isPlain, Json.membersPlain, NetAddress.toJson, Protocol.toJson, texts]
      using ips
  | some settings =>
    simpa [toJson, Json.isPlain, Json.membersPlain, NetAddress.toJson, Protocol.toJson, texts,
      settings.to_json_is_plain] using ips

end ProbeReport

namespace HostReport

def truncated (report : HostReport) : HostReport :=
  { report with
    results := report.results.map ProbeReport.truncated
    rhp3 := report.rhp3.map ProbeReport.truncated }

theorem of_to_json (report : HostReport) : ofJson report.toJson = some report.truncated := by
  obtain ⟨key, version, results, rhp3⟩ := report
  have entries : Json.asList (ProbeReport.ofNestedJson 2) (.array (results.map ProbeReport.toJson)) =
      some (results.map ProbeReport.truncated) :=
    Json.list_of_array (fun report => report.of_nested_json (by decide)) results
  cases rhp3 with
  | none =>
    simp [ofJson, toJson, truncated, Json.fields, Json.fieldOf, Json.valuesOf, Json.asText,
      Json.orDefault, PublicKey.of_to_json, entries]
  | some derived =>
    have nested := Json.optional_of_present (Json.noConfusion : derived.toJson ≠ .null)
      (derived.of_nested_json (by decide : 1 ≤ 124))
    simp [ofJson, toJson, truncated, Json.fields, Json.fieldOf, Json.valuesOf, Json.asText,
      Json.orDefault, PublicKey.of_to_json, entries, nested]

theorem to_json_of_truncated (report : HostReport) : report.truncated.toJson = report.toJson := by
  obtain ⟨key, version, results, rhp3⟩ := report
  have each : ProbeReport.toJson ∘ ProbeReport.truncated = ProbeReport.toJson :=
    funext ProbeReport.to_json_of_truncated
  simp [toJson, truncated, each, Option.map_map, Function.comp_def,
    ProbeReport.to_json_of_truncated]

theorem to_json_is_plain (report : HostReport) : report.toJson.isPlain = true := by
  obtain ⟨key, version, results, rhp3⟩ := report
  have entries : (Json.array (results.map ProbeReport.toJson)).isPlain = true :=
    Json.plain_array ProbeReport.to_json_is_plain results
  cases rhp3 with
  | none =>
    simpa [toJson, Json.isPlain, Json.membersPlain, PublicKey.toJson] using entries
  | some derived =>
    simpa [toJson, Json.isPlain, Json.membersPlain, PublicKey.toJson, derived.to_json_is_plain]
      using entries

/-- A report comes back from its text, written on one line or over several, with every length of
    time in whole milliseconds, and is written from then on as it was before. The settings of every
    generation come back as themselves. -/
theorem report_comes_back (report : HostReport) :
    ((Json.read report.toJson.write).bind ofJson = some report.truncated ∧
      (Json.read report.toJson.writeLines).bind ofJson = some report.truncated) ∧
      report.truncated.toJson = report.toJson ∧
      ∀ settings : Settings,
        (Json.read settings.toJson.write).bind (Settings.ofNestedJson 0) = some settings ∧
          (Json.read settings.toJson.writeLines).bind (Settings.ofNestedJson 0) =
            some settings := by
  obtain ⟨oneLine, lines⟩ := Json.read_of_written report.to_json_is_plain
  refine ⟨⟨?_, ?_⟩, report.to_json_of_truncated, ?_⟩
  · rw [oneLine]
    exact report.of_to_json
  · rw [lines]
    exact report.of_to_json
  · intro settings
    obtain ⟨oneLine, lines⟩ := Json.read_of_written settings.to_json_is_plain
    rw [oneLine, lines]
    have back := settings.of_nested_json (Nat.zero_le 125)
    exact ⟨back, back⟩

end HostReport
end HostHealth
