import HostHealth.Proofs.WrittenReports
import Mathlib.Data.List.Forall2
import Mathlib.Data.Option.Basic
import Mathlib.Logic.Relation

/- What a reader of settings does not notice: the order of the members of an object, and foreign
   members at any depth. But where a foreign member cannot be held, all of the value is refused. -/
namespace HostHealth

namespace Json

/-- One change that leaves all members of known names in place: the members of an object are put in
    another order, or another one of a foreign name is added, at the top or at any depth. -/
inductive Change (known : List String) : Json → Json → Prop
  | reordered {members others : List (String × Json)} (perm : members.Perm others) :
      Change known (.object members) (.object others)
  | added {members : List (String × Json)} {name : String} (foreign : name ∉ known)
      (value : Json) : Change known (.object members) (.object ((name, value) :: members))
  | inMember {before after : List (String × Json)} {name : String} {json other : Json}
      (inner : Change known json other) :
      Change known (.object (before ++ (name, json) :: after))
        (.object (before ++ (name, other) :: after))
  | inItem {before after : List Json} {json other : Json} (inner : Change known json other) :
      Change known (.array (before ++ json :: after)) (.array (before ++ other :: after))

def Varied (known : List String) : Json → Json → Prop := Relation.ReflTransGen (Change known)

/-- The value of a member, if it is there, with at most one change in it. -/
def Alike (known : List String) : Option Json → Option Json → Prop :=
  Option.Rel (Relation.ReflGen (Change known))

def IgnoresChange {α : Type} (known : List String) (read : Json → Option α) : Prop :=
  ∀ {json other : Json}, Change known json other → read other = read json

section Readers

variable {α : Type} {known names : List String} {read : Json → Option α} {json other : Json}

theorem ignores_change_of_scalars (arrays : ∀ items, read (.array items) = none)
    (objects : ∀ members, read (.object members) = none) : IgnoresChange known read := by
  intro json other change
  cases change <;> simp [arrays, objects]

theorem read_alike (ignores : IgnoresChange known read)
    (same : Relation.ReflGen (Change known) json other) : read other = read json := by
  cases same with
  | refl => rfl
  | single change => exact ignores change

theorem varied_in_member (varied : Varied known json other) (before : List (String × Json))
    (name : String) (after : List (String × Json)) :
    Varied known (.object (before ++ (name, json) :: after))
      (.object (before ++ (name, other) :: after)) := by
  induction varied with
  | refl => exact .refl
  | tail _ change ih => exact .tail ih (.inMember change)

theorem read_varied (ignores : IgnoresChange known read) (varied : Varied known json other) :
    read other = read json := by
  induction varied with
  | refl => rfl
  | tail _ change ih => rw [ignores change, ih]

end Readers

section Fields

variable {known names : List String} {members others : List (String × Json)} {name : String}

theorem field_alike
    (length : (valuesOf name members).length = (valuesOf name others).length)
    (single : ∀ json other, valuesOf name members = [json] → valuesOf name others = [other] →
      Relation.ReflGen (Change known) json other) :
    Option.Rel (Alike known) (fieldOf members name) (fieldOf others name) := by
  unfold fieldOf
  cases first : valuesOf name members with
  | nil =>
    have second : valuesOf name others = [] := by simpa [first] using length.symm
    simp only [second]
    exact .some .none
  | cons json rest =>
    cases second : valuesOf name others with
    | nil => simp [first, second] at length
    | cons other more =>
      cases rest with
      | nil =>
        have last : more = [] := by simpa [first, second] using length.symm
        subst last
        exact .some (.some (single json other first second))
      | cons next rest =>
        cases more with
        | nil => simp [first, second] at length
        | cons later more => exact .none

theorem values_of_append (before : List (String × Json)) (key : String) (json : Json)
    (after : List (String × Json)) : valuesOf name (before ++ (key, json) :: after) =
      valuesOf name before ++ ((if key = name then [json] else []) ++ valuesOf name after) := by
  unfold valuesOf
  by_cases same : key = name <;> simp [same]

theorem field_of_change (own : name ∈ known)
    (change : Change known (.object members) (.object others)) :
    Option.Rel (Alike known) (fieldOf members name) (fieldOf others name) := by
  cases change with
  | reordered perm =>
    have values : (valuesOf name members).Perm (valuesOf name others) := (perm.filter _).map _
    apply field_alike values.length_eq
    intro json other first second
    rw [first, second, List.singleton_perm_singleton] at values
    rw [values]
  | added foreign value =>
    rename_i key
    have apart : key ≠ name := fun same => foreign (same ▸ own)
    have values : valuesOf name ((key, value) :: members) = valuesOf name members := by
      simp [valuesOf, apart]
    apply field_alike (by rw [values])
    intro json other first second
    rw [values, first] at second
    cases second
    exact .refl
  | inMember inner =>
    rename_i before after key json other
    by_cases same : key = name
    · apply field_alike
      · simp [values_of_append, same]
      · intro first second alone aloneToo
        simp only [values_of_append, same, if_true, List.append_eq_singleton_iff,
          List.singleton_append, List.cons_ne_nil, and_false, or_false,
          List.cons.injEq] at alone aloneToo
        obtain ⟨_, rfl, _⟩ := alone
        obtain ⟨_, rfl, _⟩ := aloneToo
        exact .single inner
    · apply field_alike
      · simp [values_of_append, same]
      · intro first second alone aloneToo
        simp only [values_of_append, same, if_false] at alone aloneToo
        cases alone.symm.trans aloneToo
        exact .refl

theorem each_alike {first second : String → Option (Option Json)}
    (each : ∀ name ∈ names, Option.Rel (Alike known) (first name) (second name)) :
    Option.Rel (List.Forall₂ (Alike known)) (names.mapM first) (names.mapM second) := by
  induction names with
  | nil => exact .some .nil
  | cons name rest ih =>
    have head := each name List.mem_cons_self
    have tail := ih fun other member => each other (List.mem_cons_of_mem _ member)
    rw [List.mapM_cons, List.mapM_cons]
    revert head tail
    generalize first name = a, second name = b, rest.mapM first = as, rest.mapM second = bs
    intro head tail
    cases head with
    | none => exact .none
    | some head =>
      cases tail with
      | none => exact .none
      | some tail => exact .some (.cons head tail)

theorem pad_alike {items others : List Json}
    (each : List.Forall₂ (Relation.ReflGen (Change known)) items others) :
    Option.Rel (List.Forall₂ (Alike known)) (padItems names items) (padItems names others) := by
  have put {field other : Option Json} {found more : Option (List (Option Json))}
      (head : Alike known field other) (tail : Option.Rel (List.Forall₂ (Alike known)) found more) :
      Option.Rel (List.Forall₂ (Alike known)) (found.map (field :: ·)) (more.map (other :: ·)) := by
    cases tail with
    | none => exact .none
    | some tail => exact .some (.cons head tail)
  induction names generalizing items others with
  | nil =>
    cases each with
    | nil => exact .some .nil
    | cons _ _ => exact .none
  | cons name rest ih =>
    cases each with
    | nil => exact put .none (ih .nil)
    | cons same others => exact put (.some same) (ih others)

theorem fields_of_change {json other : Json} (own : ∀ name ∈ names, name ∈ known)
    (change : Change known json other) :
    Option.Rel (List.Forall₂ (Alike known)) (json.fields names) (other.fields names) := by
  have members {members others : List (String × Json)}
      (change : Change known (.object members) (.object others)) :
      Option.Rel (List.Forall₂ (Alike known)) ((Json.object members).fields names)
        ((Json.object others).fields names) :=
    each_alike fun name member => field_of_change (own name member) change
  cases change with
  | reordered perm => exact members (.reordered perm)
  | added foreign value => exact members (.added foreign value)
  | inMember inner => exact members (.inMember inner)
  | inItem inner =>
    have same (items : List Json) : List.Forall₂ (Relation.ReflGen (Change known)) items items :=
      List.forall₂_same.mpr fun _ _ => .refl
    exact pad_alike (List.rel_append (same _) (.cons (.single inner) (same _)))

end Fields

end Json

section Records

open Json

variable {known : List String}

theorem ignores_bool : IgnoresChange known asBool :=
  ignores_change_of_scalars (fun _ => rfl) fun _ => rfl

theorem ignores_text : IgnoresChange known asText :=
  ignores_change_of_scalars (fun _ => rfl) fun _ => rfl

theorem ignores_word : IgnoresChange known asWord :=
  ignores_change_of_scalars (fun _ => rfl) fun _ => rfl

theorem ignores_amount : IgnoresChange known Currency.ofJson :=
  ignores_change_of_scalars (fun _ => rfl) fun _ => rfl

theorem ignores_optional_text : IgnoresChange known (asOptional asText) :=
  ignores_change_of_scalars (fun _ => rfl) fun _ => rfl

theorem ignores_by_fields {α : Type} {names : List String}
    {decode : List (Option Json) → Option α} (own : ∀ name ∈ names, name ∈ known)
    (each : ∀ fields others, List.Forall₂ (Alike known) fields others →
      decode others = decode fields) :
    IgnoresChange known fun json => (json.fields names).bind decode := by
  intro json other change
  have alike := fields_of_change own change
  dsimp only
  generalize json.fields names = found, other.fields names = others at alike ⊢
  cases alike with
  | none => rfl
  | some same => exact each _ _ same

def Prices.names : List String := ["storagePrice", "collateral", "tipHeight"]

theorem Prices.ignores (own : ∀ name ∈ names, name ∈ known) :
    IgnoresChange known Prices.ofJson := by
  apply ignores_by_fields own
  intro fields others each
  -- Fields of another number, or with one missing, are refused on both sides.
  rcases each with _ | ⟨storage | _, _ | ⟨collateral | _, _ | ⟨height | _, _ | _⟩⟩⟩ <;> try rfl
  simp only [Option.bind_eq_bind, read_alike ignores_amount storage,
    read_alike ignores_amount collateral, read_alike ignores_word height]

def SettingsV2.names : List String :=
  ["acceptingContracts", "netAddress", "siamuxPort", "maxCollateral", "collateral", "storagePrice",
    "maxDuration", "release"]

theorem SettingsV2.ignores (own : ∀ name ∈ names, name ∈ known) :
    IgnoresChange known SettingsV2.ofJson := by
  apply ignores_by_fields own
  intro fields others each
  rcases each with _ | ⟨accepting | _, _ | ⟨address | _, _ | ⟨port | _, _ | ⟨maximum | _,
    _ | ⟨collateral | _, _ | ⟨storage | _, _ | ⟨duration | _, _ | ⟨release | _,
    _ | _⟩⟩⟩⟩⟩⟩⟩⟩ <;> try rfl
  simp only [Option.bind_eq_bind, read_alike ignores_bool accepting,
    read_alike ignores_text address, read_alike ignores_text port,
    read_alike ignores_amount maximum, read_alike ignores_amount collateral,
    read_alike ignores_amount storage, read_alike ignores_word duration,
    read_alike ignores_text release]

def PriceTable.names : List String :=
  ["hostBlockHeight", "maxCollateral", "collateralCost", "writeStoreCost"]

theorem PriceTable.ignores (own : ∀ name ∈ names, name ∈ known) :
    IgnoresChange known PriceTable.ofJson := by
  apply ignores_by_fields own
  intro fields others each
  rcases each with _ | ⟨height | _, _ | ⟨maximum | _, _ | ⟨collateral | _, _ | ⟨storage | _,
    _ | _⟩⟩⟩⟩ <;> try rfl
  simp only [Option.bind_eq_bind, read_alike ignores_word height,
    read_alike ignores_amount maximum, read_alike ignores_amount collateral,
    read_alike ignores_amount storage]

def SettingsV4.names : List String :=
  ["acceptingContracts", "maxCollateral", "maxContractDuration", "release", "netAddress", "prices"]

theorem SettingsV4.ignores (own : ∀ name ∈ names, name ∈ known)
    (inner : ∀ name ∈ Prices.names, name ∈ known) : IgnoresChange known SettingsV4.ofJson := by
  apply ignores_by_fields own
  intro fields others each
  rcases each with _ | ⟨accepting | _, _ | ⟨maximum | _, _ | ⟨duration | _, _ | ⟨release | _,
    _ | ⟨address | _, _ | ⟨prices | _, _ | _⟩⟩⟩⟩⟩⟩ <;> try rfl
  · simp only [Option.bind_eq_bind, orDefault,
      read_alike ignores_bool accepting, read_alike ignores_amount maximum,
      read_alike ignores_word duration, read_alike ignores_text release,
      read_alike ignores_optional_text address, read_alike (Prices.ignores inner) prices]
  · simp only [Option.bind_eq_bind, orDefault,
      read_alike ignores_bool accepting, read_alike ignores_amount maximum,
      read_alike ignores_word duration, read_alike ignores_text release,
      read_alike (Prices.ignores inner) prices]

def Settings.declared : List String :=
  SettingsV2.names ++ PriceTable.names ++ SettingsV4.names ++ Prices.names

theorem Settings.ignores : IgnoresChange Settings.declared Settings.ofJson := by
  intro json other change
  have v2 : SettingsV2.ofJson other = SettingsV2.ofJson json :=
    SettingsV2.ignores (by decide) change
  have table : PriceTable.ofJson other = PriceTable.ofJson json :=
    PriceTable.ignores (by decide) change
  have v4 : SettingsV4.ofJson other = SettingsV4.ofJson json :=
    SettingsV4.ignores (by decide) (by decide) change
  unfold ofJson
  rw [v2, table, v4]

end Records

namespace Settings

open Json

variable {json : Json} {outside : Nat}

theorem of_nested_held (held : json.isHoldable (maxNesting - outside) = true) :
    ofNestedJson outside json = ofJson json := if_pos held

theorem of_nested_unheld (unheld : json.isHoldable (maxNesting - outside) = false) :
    ofNestedJson outside json = none := by
  simp [ofNestedJson, unheld]

theorem of_json_iff (json : Json) :
    (∀ s, ofJson json = some (.v2 s) ↔ SettingsV2.ofJson json = some s) ∧
      (∀ t, ofJson json = some (.v3 t) ↔
        SettingsV2.ofJson json = none ∧ PriceTable.ofJson json = some t) ∧
      (∀ s, ofJson json = some (.v4 s) ↔ SettingsV2.ofJson json = none ∧
        PriceTable.ofJson json = none ∧ SettingsV4.ofJson json = some s) ∧
      (ofJson json = none ↔ SettingsV2.ofJson json = none ∧ PriceTable.ofJson json = none ∧
        SettingsV4.ofJson json = none) := by
  unfold ofJson
  cases SettingsV2.ofJson json <;> cases PriceTable.ofJson json <;>
    cases SettingsV4.ofJson json <;> simp

def nested : Nat → Json
  | 0 => .array []
  | depth + 1 => .array [nested depth]

theorem nested_is_holdable (depth room : Nat) :
    (nested depth).isHoldable room = true ↔ depth < room := by
  induction depth generalizing room with
  | zero => simp [nested, isHoldable, areHoldable, Nat.pos_iff_ne_zero]
  | succ depth ih =>
    simp only [nested, isHoldable, areHoldable, Bool.and_eq_true, ih]
    simp
    omega

theorem nested_is_plain (depth : Nat) : (nested depth).isPlain = true := by
  induction depth with
  | zero => rfl
  | succ depth ih => simp [nested, isPlain, arePlain, ih]

def withMember (name : String) (value : Json) : Json → Json
  | .object members => .object ((name, value) :: members)
  | json => json

theorem lost_with_member (table : PriceTable) {name : String} {value : Json}
    (foreign : name ∉ declared) (plain : value.isPlain = true)
    (unheld : value.isHoldable (maxNesting - 1) = false) :
    let json := withMember name value (Settings.v3 table).toJson
    Varied declared (Settings.v3 table).toJson json ∧
      SettingsV2.ofJson json = none ∧ PriceTable.ofJson json = some table ∧
      ofNestedJson 0 json = none ∧ (read json.write).bind (ofNestedJson 0) = none := by
  intro json
  have change : Change declared (Settings.v3 table).toJson json := .added foreign _
  have older : SettingsV2.ofJson json = none :=
    (SettingsV2.ignores (by decide) change).trans (newer_is_no_v2 (.v3 table) nofun)
  have fits : PriceTable.ofJson json = some table :=
    (PriceTable.ignores (by decide) change).trans table.of_to_json
  have whole : json.isHoldable (maxNesting - 0) = false := by
    change (true && (value.isHoldable (maxNesting - 1) && _)) = false
    simp [unheld]
  have written : json.isPlain = true := by
    change (value.isPlain && _) = true
    rw [plain]
    rfl
  have refused : ofNestedJson 0 json = none := of_nested_unheld whole
  refine ⟨.single change, older, fits, refused, ?_⟩
  rw [(read_of_written written).1]
  exact refused

/-- A price table with one foreign member, which is nested too deep to be held, is no settings at
    all, though it is a price table and no older record. -/
theorem deep_member_is_not_ignored :
    let table : PriceTable := ⟨1000, ⟨100, by decide⟩, ⟨25, by decide⟩, ⟨10, by decide⟩⟩
    let json := withMember "extra" (nested 126) (Settings.v3 table).toJson
    Varied declared (Settings.v3 table).toJson json ∧
      SettingsV2.ofJson json = none ∧ PriceTable.ofJson json = some table ∧
      ofNestedJson 0 json = none ∧ (read json.write).bind (ofNestedJson 0) = none := by
  have deep : (nested 126).isHoldable (maxNesting - 1) = false := by
    rw [Bool.eq_false_iff, ne_eq, nested_is_holdable]
    decide
  exact lost_with_member _ (by decide) (nested_is_plain 126) deep

/-- Written settings come back from all that differs from them in the order of members and in
    foreign members. A value that can be held is read as the oldest record that fits, and one that
    cannot be held is refused, whatever would fit. -/
theorem foreign_members_are_ignored :
    (∀ (s : Settings) json, Varied declared s.toJson json → ofJson json = some s ∧
      ∀ outside, ofNestedJson outside json =
        if json.isHoldable (maxNesting - outside) then some s else none) ∧
    (∀ json outside, json.isHoldable (maxNesting - outside) = true →
      (∀ s, ofNestedJson outside json = some (.v2 s) ↔ SettingsV2.ofJson json = some s) ∧
      (∀ t, ofNestedJson outside json = some (.v3 t) ↔
        SettingsV2.ofJson json = none ∧ PriceTable.ofJson json = some t) ∧
      (∀ s, ofNestedJson outside json = some (.v4 s) ↔ SettingsV2.ofJson json = none ∧
        PriceTable.ofJson json = none ∧ SettingsV4.ofJson json = some s) ∧
      (ofNestedJson outside json = none ↔ SettingsV2.ofJson json = none ∧
        PriceTable.ofJson json = none ∧ SettingsV4.ofJson json = none)) ∧
    (∀ json outside, json.isHoldable (maxNesting - outside) = false →
      ofNestedJson outside json = none) := by
  refine ⟨?_, ?_, fun _ _ => of_nested_unheld⟩
  · intro s json varied
    have own : ofJson json = some s := by
      rw [read_varied Settings.ignores varied, s.of_to_json]
    refine ⟨own, fun outside => ?_⟩
    unfold ofNestedJson
    rw [own]
  · intro json outside held
    rw [of_nested_held held]
    exact of_json_iff json

theorem settings_among_foreign_members :
    let s : SettingsV4 :=
      { acceptingContracts := true
        maxCollateral := ⟨100, by decide⟩
        maxContractDuration := 4320
        release := "v1.6.0"
        netAddress := none
        prices := ⟨⟨10, by decide⟩, ⟨25, by decide⟩, 1000⟩ }
    let json : Json := .object
      [("prices", .object
        [("unit", .text "hasting"), ("tipHeight", .word 1000),
          ("collateral", Currency.toJson ⟨25, by decide⟩),
          ("storagePrice", Currency.toJson ⟨10, by decide⟩)]),
        ("release", .text "v1.6.0"), ("maxContractDuration", .word 4320),
        ("maxCollateral", Currency.toJson ⟨100, by decide⟩), ("acceptingContracts", .bool true),
        ("siamux", .object [("release", .null), ("load", .array [.numeral "1.5"])])]
    Varied declared (Settings.v4 s).toJson json ∧ ofJson json = some (.v4 s) ∧
      json.isHoldable maxNesting = true ∧ ofNestedJson 0 json = some (.v4 s) ∧
      SettingsV2.ofJson json = none ∧ PriceTable.ofJson json = none := by
  intro s json
  obtain ⟨ignored, picked, _⟩ := foreign_members_are_ignored
  have inside : Varied declared s.prices.toJson (.object
      [("unit", .text "hasting"), ("tipHeight", .word 1000),
        ("collateral", Currency.toJson ⟨25, by decide⟩),
        ("storagePrice", Currency.toJson ⟨10, by decide⟩)]) :=
    .head (.reordered (List.reverse_perm _).symm) (.single (.added (by decide) _))
  have lifted := varied_in_member inside
    [("acceptingContracts", .bool true), ("maxCollateral", Currency.toJson ⟨100, by decide⟩),
      ("maxContractDuration", .word 4320), ("release", .text "v1.6.0")] "prices" []
  have varied : Varied declared (Settings.v4 s).toJson json :=
    lifted.trans (.head (.added (by decide) _) (.single (.reordered (List.reverse_perm _).symm)))
  have held : json.isHoldable maxNesting = true := by decide +kernel
  have read := (ignored (.v4 s) json varied).2 0
  rw [Nat.sub_zero, if_pos held] at read
  obtain ⟨_, _, newest, _⟩ := picked json 0 held
  obtain ⟨noV2, noTable, _⟩ := (newest s).mp read
  exact ⟨varied, (ignored (.v4 s) json varied).1, held, read, noV2, noTable⟩

end Settings

end HostHealth
