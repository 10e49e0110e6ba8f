import HostHealth.Proofs.WrittenAddresses
import HostHealth.Proofs.WrittenJson

/- Which texts are read as a host key, and what each of the others is refused for. A key has one
   text for every choice of case of its digits, and the one that is written is without capitals.
   In JSON it is the same text between quotation marks. -/
namespace HostHealth.Net.PublicKey

open Text

structure AreKeyDigits (digits : String) : Prop where
  size : digits.length = 64
  each : ∀ c ∈ digits.toList, IsHexDigit c

instance (digits : String) : Decidable (AreKeyDigits digits) :=
  decidable_of_iff (digits.length = 64 ∧ (digits.toList.all fun c => IsHexDigit c) = true)
    ⟨fun ⟨size, all⟩ => ⟨size, by simpa using all⟩, fun own => ⟨own.size, by simpa using own.each⟩⟩

def Spells (text : String) (key : PublicKey) : Prop :=
  ∃ digits, text = marker ++ digits ∧ AreKeyDigits digits ∧
    digits.toList.map hexPlace = halves key.bytes

/-- What a text is refused for: of several faults, the one that comes first here. Bytes are those of
    the text in UTF-8, counted from the end of the marker. -/
inductive Refused (text : String) : KeyError → Prop
  | unmarked (bare : ∀ rest, text ≠ marker ++ rest) : Refused text .unmarked
  | oddLength {rest : String} (marked : text = marker ++ rest) (odd : rest.utf8ByteSize % 2 = 1) :
      Refused text (.hex .oddLength)
  | badByte {rest : String} {before after : List UInt8} {bad : UInt8}
      (marked : text = marker ++ rest) (even : rest.utf8ByteSize % 2 = 0)
      (bytes : rest.toUTF8.data.toList = before ++ bad :: after)
      (good : ∀ b ∈ before, IsHexByte b) (other : ¬ IsHexByte bad) :
      Refused text (.hex (.badByte bad before.length))
  | length {digits : String} {bytes : Nat} (marked : text = marker ++ digits)
      (each : ∀ c ∈ digits.toList, IsHexDigit c) (size : digits.length = 2 * bytes)
      (other : bytes ≠ 32) : Refused text (.length bytes)

section Reading

variable {text digits : String} {key : PublicKey} {e : KeyError}

theorem read_marked (rest : String) :
    read (marker ++ rest) = ((Hex.decode (utf8 rest.toList)).mapError .hex).bind ofBytes := by
  simp only [read, String.toList_append, drop_lead_append]
  cases Hex.decode (utf8 rest.toList) <;> rfl

theorem read_unmarked (bare : ∀ rest, text ≠ marker ++ rest) : read text = .error .unmarked := by
  have undropped : dropLead? marker.toList text.toList = none := by
    rw [Option.eq_none_iff_forall_ne_some]
    intro rest dropped
    apply bare (String.ofList rest)
    apply String.toList_injective
    rw [drop_lead_some_iff.mp dropped, String.toList_append, String.toList_ofList]
  rw [read, undropped]

theorem read_of_places {bytes : List UInt8} (each : ∀ c ∈ digits.toList, IsHexDigit c)
    (places : digits.toList.map hexPlace = halves bytes) :
    read (marker ++ digits) = ofBytes bytes := by
  rw [read_marked, Hex.decode_of_places each places]
  rfl

theorem read_of_spelled (spelled : Spells text key) : read text = .ok key := by
  obtain ⟨digits, rfl, own, places⟩ := spelled
  rw [read_of_places own.each places]
  exact dif_pos key.size

theorem bytes_of_size {count : Nat} (each : ∀ c ∈ digits.toList, IsHexDigit c)
    (size : digits.length = 2 * count) :
    ∃ bytes : List UInt8, bytes.length = count ∧ digits.toList.map hexPlace = halves bytes :=
  Hex.bytes_of_digits each (by rw [String.length_toList, size])

theorem read_of_refused (refused : Refused text e) : read text = .error e := by
  cases refused with
  | unmarked bare => exact read_unmarked bare
  | oddLength marked odd =>
    rw [Hex.byte_size_eq] at odd
    rw [marked, read_marked, Hex.decode, if_pos odd]
    rfl
  | badByte marked even bytes good other =>
    rw [Hex.utf8_eq_bytes] at bytes
    rw [Hex.byte_size_eq, bytes] at even
    rw [marked, read_marked, bytes, Hex.decode_of_bad even good other]
    rfl
  | length marked each size other =>
    obtain ⟨bytes, rfl, places⟩ := bytes_of_size each size
    rw [marked, read_of_places each places]
    exact dif_neg other

theorem verdict_cases (text : String) : (∃ key, Spells text key) ∨ ∃ e, Refused text e := by
  by_cases marked : ∃ rest, text = marker ++ rest
  · obtain ⟨rest, marked⟩ := marked
    by_cases odd : rest.utf8ByteSize % 2 = 1
    · exact .inr ⟨_, .oddLength marked odd⟩
    have even : rest.utf8ByteSize % 2 = 0 := by omega
    by_cases each : ∀ c ∈ rest.toList, IsHexDigit c
    · have size : rest.length = 2 * (rest.length / 2) := by
        rw [Hex.byte_size_eq, Hex.length_of_digits each, String.length_toList] at even
        omega
      by_cases whole : rest.length / 2 = 32
      · obtain ⟨bytes, many, places⟩ := bytes_of_size each size
        exact .inl ⟨⟨bytes, by omega⟩, rest, marked, ⟨by omega, each⟩, places⟩
      · exact .inr ⟨_, .length marked each size whole⟩
    · -- a sign that is no digit has a byte that is none
      rw [← Hex.utf8_digits_iff, ← Hex.utf8_eq_bytes] at each
      obtain ⟨before, bad, after, bytes, good, other⟩ := Hex.first_bad each
      exact .inr ⟨_, .badByte marked even bytes good other⟩
  · exact .inr ⟨_, .unmarked (not_exists.mp marked)⟩

theorem read_verdicts (text : String) :
    (∀ key, read text = .ok key ↔ Spells text key) ∧ ∀ e, read text = .error e ↔ Refused text e :=
  verdicts_are_exact (fun _ => read_of_spelled) (fun _ => read_of_refused) (verdict_cases text)

theorem spelled_iff :
    (∃ key, Spells text key) ↔ ∃ digits, text = marker ++ digits ∧ AreKeyDigits digits := by
  constructor
  · rintro ⟨key, digits, marked, own, _⟩
    exact ⟨digits, marked, own⟩
  · rintro ⟨digits, marked, own⟩
    have double : digits.length = 2 * 32 := own.size
    obtain ⟨bytes, many, places⟩ := bytes_of_size own.each double
    exact ⟨⟨bytes, many⟩, digits, marked, own, places⟩

theorem chars_of_lower (text : String) : text.toLower.toList = text.toList.map Char.toLower :=
  String.toList_map

theorem text_of_spelled (spelled : Spells (marker ++ digits) key) :
    key.text = marker ++ digits.toLower := by
  obtain ⟨own, same, keyDigits, places⟩ := spelled
  have behind : digits = own := by simpa using same
  apply String.toList_injective
  rw [text, String.toList_append, String.toList_append, String.toList_ofList,
    Hex.encode_of_places keyDigits.each places, behind, chars_of_lower]

theorem text_of_read (found : read text = .ok key) : key.text = text.toLower := by
  have spelled := ((read_verdicts text).1 key).mp found
  obtain ⟨digits, rfl, _⟩ := id spelled
  rw [text_of_spelled spelled]
  apply String.toList_injective
  have small : marker.toList.map Char.toLower = marker.toList := by decide
  simp [chars_of_lower, small]

theorem same_key_iff {other : PublicKey} {also : String} (found : read text = .ok key)
    (foundAlso : read also = .ok other) : key = other ↔ text.toLower = also.toLower := by
  rw [← text_of_read found, ← text_of_read foundAlso]
  constructor
  · rintro rfl
    rfl
  · intro same
    have back := read_of_text key
    rw [same, read_of_text] at back
    cases back
    rfl

end Reading

section Json

variable {json : Json} {key : PublicKey}

theorem of_json_iff :
    ofJson json = some key ↔ ∃ text, json = .text text ∧ read text = .ok key := by
  cases json with
  | text text => cases own : read text <;> simp [ofJson, Json.asText, own, Except.toOption]
  | _ => simp [ofJson, Json.asText]

theorem chars_are_unescaped (key : PublicKey) :
    ∀ c ∈ key.text.toList, Json.Writer.escape c = [c] := by
  have letters : (marker.toList.all fun c => Json.Writer.escape c = [c]) = true := by decide
  have digits : ∀ n < 16, Json.Writer.escape (hexChar n) = [hexChar n] := by decide
  intro c member
  rw [text, String.toList_append, String.toList_ofList] at member
  rcases List.mem_append.mp member with lead | digit
  · exact of_decide_eq_true (List.all_eq_true.mp letters c lead)
  · obtain ⟨n, small, rfl⟩ := Hex.mem_encoded digit
    exact digits n small

theorem write_eq (key : PublicKey) : key.toJson.write = "\"" ++ key.text ++ "\"" := by
  have plain : key.text.toList.flatMap Json.Writer.escape = key.text.toList := by
    rw [List.flatMap_congr key.chars_are_unescaped, List.flatMap_singleton']
  apply String.toList_injective
  rw [toJson, Json.write, Json.Writer.compact, Json.Writer.string, plain]
  simp

theorem read_written_iff {text : String} :
    (Json.read (Json.text text).write).bind ofJson = some key ↔ read text = .ok key := by
  have plain : (Json.text text).isPlain = true := rfl
  have back := (Json.read_of_written plain).1
  rw [back, Option.bind_some, of_json_iff]
  simp

end Json

/-- A key comes back from its text. The texts of keys are the marker with 64 digits behind it, each
    of which stands for half a byte; of these the key writes the one without capitals, and those of
    one key differ in nothing else. Any other text is refused for the first of its faults. In JSON a
    key is its text, so that a text between quotation marks is read as it is without them. -/
theorem key_text_is_exact :
    (∀ key : PublicKey, read key.text = .ok key) ∧
      (∀ text : String,
        (∀ key, read text = .ok key ↔ Spells text key) ∧
        ((∃ key, read text = .ok key) ↔
          ∃ digits, text = "ed25519:" ++ digits ∧ AreKeyDigits digits) ∧
        (∀ digits key, text = "ed25519:" ++ digits → read text = .ok key →
          key.text = "ed25519:" ++ digits.toLower) ∧
        ∀ e, read text = .error e ↔ Refused text e) ∧
      (∀ text also key other, read text = .ok key → read also = .ok other →
        (key = other ↔ text.toLower = also.toLower)) ∧
      (∀ json key, ofJson json = some key ↔ ∃ text, json = .text text ∧ read text = .ok key) ∧
      (∀ key : PublicKey, key.toJson.write = "\"" ++ key.text ++ "\"") ∧
      ∀ text key, (Json.read (Json.text text).write).bind ofJson = some key ↔ read text = .ok key := by
  refine ⟨read_of_text, ?_, fun _ _ _ _ => same_key_iff, fun _ _ => of_json_iff, write_eq,
    fun _ _ => read_written_iff⟩
  intro text
  obtain ⟨accepted, refused⟩ := read_verdicts text
  refine ⟨accepted, ?_, ?_, refused⟩
  · exact (exists_congr accepted).trans spelled_iff
  · rintro digits key rfl found
    exact text_of_spelled ((accepted key).mp found)

theorem key_of_mixed_case :
    let digits := String.ofList (List.replicate 32 ['a', 'B']).flatten
    AreKeyDigits digits ∧ read ("ed25519:" ++ digits) = .ok (filled 0xAB) ∧
      (filled 0xAB).text = "ed25519:" ++ digits.toLower ∧
      ("ed25519:" ++ digits).toLower = (filled 0xAB).text.toLower ∧
      Refused "ed25519:\u00e9" (.hex (.badByte 0xC3 0)) ∧
      Refused "ed25519:a\u00e9" (.hex .oddLength) := by
  have own : AreKeyDigits (String.ofList (List.replicate 32 ['a', 'B']).flatten) := by decide
  have places : (String.ofList (List.replicate 32 ['a', 'B']).flatten).toList.map hexPlace =
      halves (filled 0xAB).bytes := by decide
  intro digits
  obtain ⟨back, exactly, same, _⟩ := key_text_is_exact
  have found := ((exactly ("ed25519:" ++ digits)).1 (filled 0xAB)).mpr ⟨digits, rfl, own, places⟩
  exact ⟨own, found, (exactly _).2.2.1 digits _ rfl found, (same _ _ _ _ found (back _)).mp rfl,
    ((exactly _).2.2.2 _).mp (by decide), ((exactly _).2.2.2 _).mp (by decide)⟩

end HostHealth.Net.PublicKey
