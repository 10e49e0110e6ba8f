import HostHealth.Json.Reader
import HostHealth.Json.Writer
import HostHealth.Proofs.WrittenNumbers
import Mathlib.Data.List.TakeDrop

/- A JSON text that has been written, on one line or over several, is read as the value that it was
   written for. The value has to be plain: a number that is kept as it was written may be no number
   at all, and half of a surrogate pair is written as a replacement character. -/
namespace HostHealth.Json

open Text

mutual

def isPlain : Json → Bool
  | .null | .bool _ | .natural _ | .text _ => true
  | .numeral _ | .unpaired => false
  | .array items => arePlain items
  | .object members => membersPlain members

def arePlain : List Json → Bool
  | [] => true
  | item :: rest => isPlain item && arePlain rest

def membersPlain : List (String × Json) → Bool
  | [] => true
  | (_, item) :: rest => isPlain item && membersPlain rest

end

def isScalar : Json → Bool
  | .array _ | .object _ => false
  | _ => true

namespace Writer

def Blank (gap : List Char) : Prop := ∀ c ∈ gap, c = ' ' ∨ c = '\n'

/-- A way to write, with the blanks in front of an item or a closing mark, by its level, and those
    behind a colon. -/
structure Layout where
  value : Nat → Json → List Char
  items : Nat → List Json → List Char
  members : Nat → List (String × Json) → List Char
  gap : Nat → List Char
  space : List Char

/-- Everything is written as on one line, but for the blanks. -/
structure Layout.Regular (layout : Layout) : Prop where
  gap : ∀ level, Blank (layout.gap level)
  space : Blank layout.space
  scalar : ∀ level json, json.isScalar = true → layout.value level json = compact json
  noItems : ∀ level, layout.value level (.array []) = ['[', ']']
  array : ∀ level item rest, layout.value level (.array (item :: rest)) =
    '[' :: (layout.items (level + 1) (item :: rest) ++ (layout.gap level ++ [']']))
  noMembers : ∀ level, layout.value level (.object []) = ['\x7b', '\x7d']
  object : ∀ level member rest, layout.value level (.object (member :: rest)) =
    '\x7b' :: (layout.members (level + 1) (member :: rest) ++ (layout.gap level ++ ['\x7d']))
  lastItem : ∀ level item, layout.items level [item] = layout.gap level ++ layout.value level item
  earlierItem : ∀ level item next rest, layout.items level (item :: next :: rest) =
    layout.gap level ++ (layout.value level item ++ ',' :: layout.items level (next :: rest))
  lastMember : ∀ level name item, layout.members level [(name, item)] =
    layout.gap level ++ (string name ++ ':' :: (layout.space ++ layout.value level item))
  earlierMember : ∀ level name item next rest,
    layout.members level ((name, item) :: next :: rest) =
      layout.gap level ++ (string name ++ ':' :: (layout.space ++
        (layout.value level item ++ ',' :: layout.members level (next :: rest))))

def oneLine : Layout :=
  ⟨fun _ => compact, fun _ => compactItems, fun _ => compactMembers, fun _ => [], []⟩

def lines : Layout := ⟨spread, spreadItems, spreadMembers, newline, [' ']⟩

theorem one_line_is_regular : oneLine.Regular where
  gap _ := nofun
  space := nofun
  scalar _ _ _ := rfl
  noItems _ := rfl
  array _ _ _ := rfl
  noMembers _ := rfl
  object _ _ _ := rfl
  lastItem _ _ := rfl
  earlierItem _ _ _ _ := rfl
  lastMember _ _ _ := rfl
  earlierMember _ _ _ _ _ := List.append_assoc _ _ _

theorem lines_are_regular : lines.Regular where
  gap level := by
    intro c member
    rcases List.mem_cons.mp member with rfl | blank
    · exact .inr rfl
    · exact .inl (List.eq_of_mem_replicate blank)
  space c member := .inl (List.mem_singleton.mp member)
  scalar level json scalar := by
    cases json with
    | array | object => cases scalar
    | _ => rfl
  noItems _ := rfl
  array _ _ _ := List.append_assoc _ _ _
  noMembers _ := rfl
  object _ _ _ := List.append_assoc _ _ _
  lastItem _ _ := rfl
  earlierItem _ _ _ _ := List.append_assoc _ _ _
  lastMember _ _ _ := List.append_assoc _ _ _
  earlierMember level name item next rest := by
    change newline level ++ string name ++ ':' :: ' ' :: spread level item ++
      ',' :: spreadMembers level (next :: rest) = _
    simp [lines]

end Writer

namespace Reader

open Writer

/-- What may stand behind a value: nothing, a blank, a comma, or a closing bracket or brace. -/
def Ends (rest : List Char) : Prop :=
  ∀ c more, rest = c :: more → c = ' ' ∨ c = '\n' ∨ c = ',' ∨ c = ']' ∨ c = '\x7d'

theorem ends_of_nil : Ends [] := nofun

theorem ends_of_cons {c : Char} {rest : List Char}
    (own : c = ' ' ∨ c = '\n' ∨ c = ',' ∨ c = ']' ∨ c = '\x7d') : Ends (c :: rest) := by
  intro d more same
  cases same
  exact own

section Strings

def put (code : Nat) (found : List Nat × List Char) : List Nat × List Char :=
  (code :: found.1, found.2)

theorem code_points_escaped {e c : Char} (own : escape? e = some c) (rest : List Char) :
    codePoints ('\\' :: e :: rest) = (codePoints rest).map (put c.toNat) := by
  rw [codePoints, own]
  · cases codePoints rest <;> rfl
  · rintro _ _ _ _ _ rfl
    cases own

theorem code_points_numbered {n : Nat} (control : n < 32) (rest : List Char) :
    codePoints (['\\', 'u', '0', '0', hexChar (n / 16), hexChar (n % 16)] ++ rest) =
      (codePoints rest).map (put n) := by
  have code : ∀ n < 32, readDigits 16 hexDigit? ['0', '0', hexChar (n / 16), hexChar (n % 16)] =
      some n := by decide
  change codePoints ('\\' :: 'u' :: '0' :: '0' :: hexChar (n / 16) :: hexChar (n % 16) :: rest) = _
  rw [codePoints, code n control]
  cases codePoints rest <;> rfl

theorem code_points_unescaped {c : Char} (noQuote : c ≠ '"') (noSlash : c ≠ '\\')
    (visible : ¬ c < ' ') (rest : List Char) :
    codePoints (c :: rest) = (codePoints rest).map (put c.toNat) := by
  rw [codePoints, if_neg visible]
  · cases codePoints rest <;> rfl
  · exact noQuote
  · exact fun _ _ _ _ _ same => absurd same noSlash
  · exact fun _ _ same => absurd same noSlash

def marked : List Char := ['"', '\\', '\x08', '\x0c', '\n', '\r', '\t']

theorem escape_of_marked {c : Char} (special : c ∈ marked) :
    ∃ e, escape c = ['\\', e] ∧ escape? e = some c := by
  simp only [marked, List.mem_cons, List.not_mem_nil, or_false] at special
  rcases special with rfl | rfl | rfl | rfl | rfl | rfl | rfl <;> exact ⟨_, rfl, rfl⟩

theorem escape_of_unmarked {c : Char} (unmarked : c ∉ marked) :
    escape c = if c < ' ' then ['\\', 'u', '0', '0', hexChar (c.toNat / 16), hexChar (c.toNat % 16)]
      else [c] := by
  simp only [marked, List.mem_cons, List.not_mem_nil, or_false, not_or] at unmarked
  simp only [escape, unmarked, if_false]

theorem code_points_of_escape (c : Char) (rest : List Char) :
    codePoints (escape c ++ rest) = (codePoints rest).map (put c.toNat) := by
  by_cases special : c ∈ marked
  · obtain ⟨e, written, read⟩ := escape_of_marked special
    rw [written]
    exact code_points_escaped read rest
  · rw [escape_of_unmarked special]
    split
    · exact code_points_numbered (by assumption) rest
    · have noQuote : c ≠ '"' := by rintro rfl; exact special (by decide)
      have noSlash : c ≠ '\\' := by rintro rfl; exact special (by decide)
      exact code_points_unescaped noQuote noSlash (by assumption) rest

theorem code_points_of_text (text rest : List Char) :
    codePoints (text.flatMap escape ++ '"' :: rest) = some (text.map Char.toNat, rest) := by
  induction text with
  | nil => rfl
  | cons c more ih =>
    rw [List.flatMap_cons, List.append_assoc, code_points_of_escape, ih]
    rfl

theorem no_surrogate (c : Char) : isHigh c.toNat = false ∧ isLow c.toNat = false := by
  have valid : c.toNat < 0xD800 ∨ 0xDFFF < c.toNat ∧ c.toNat < 0x110000 := c.valid
  unfold isHigh isLow
  simp only [Bool.and_eq_false_iff, decide_eq_false_iff_not]
  omega

theorem pair_up_of_text (text : List Char) : pairUp (text.map Char.toNat) = some text := by
  induction text with
  | nil => rfl
  | cons c more ih =>
    obtain ⟨noHigh, noLow⟩ := no_surrogate c
    cases more with
    | nil => simp [pairUp, noHigh, noLow]
    | cons d more =>
      rw [List.map_cons] at ih ⊢
      rw [List.map_cons, pairUp, noHigh, noLow, ih]
      simp

theorem read_string_text (text : String) (rest : List Char) :
    Reader.string (text.toList.flatMap escape ++ '"' :: rest) = some (.text text, rest) := by
  unfold Reader.string
  rw [code_points_of_text]
  dsimp only [Option.map_some]
  rw [pair_up_of_text]
  dsimp only
  rw [String.ofList_toList]

theorem read_name (text : String) (rest : List Char) :
    name (Writer.string text ++ ':' :: rest) = some (text, skipBlanks rest) := by
  unfold Writer.string
  rw [List.append_assoc, List.cons_append, List.singleton_append, name, code_points_of_text]
  change (pairUp (text.toList.map Char.toNat)).bind _ = _
  rw [pair_up_of_text]
  change some (String.ofList text.toList, skipBlanks rest) = _
  rw [String.ofList_toList]

end Strings

section Numbers

theorem digit_char_is_digit : ∀ d < 10, isDigit (digitChar d) = true := by decide

theorem digits_are_digits (n : Nat) : ∀ c ∈ digits n, isDigit c = true := by
  intro c member
  obtain ⟨d, small, rfl⟩ := mem_written digits_positional member
  exact digit_char_is_digit d small

theorem digit_run_of_digits (n : Nat) {rest : List Char} (ends : Ends rest) :
    digitRun (digits n ++ rest) = some (digits n, rest) := by
  have stops : rest.takeWhile isDigit = [] ∧ rest.dropWhile isDigit = rest := by
    cases rest with
    | nil => exact ⟨rfl, rfl⟩
    | cons c more => rcases ends c more rfl with rfl | rfl | rfl | rfl | rfl <;> exact ⟨rfl, rfl⟩
  have spanned : (digits n ++ rest).span isDigit = (digits n, rest) := by
    rw [List.span_eq_takeWhile_dropWhile, List.takeWhile_append_of_pos (digits_are_digits n),
      List.dropWhile_append_of_pos (digits_are_digits n), stops.1, stops.2, List.append_nil]
  unfold digitRun
  rw [spanned]
  cases own : digits n with
  | nil => exact absurd own (written_ne_nil digits_positional n)
  | cons d more => rfl

theorem whole_run_of_digits (n : Nat) {rest : List Char} (ends : Ends rest) :
    wholeRun (digits n ++ rest) = some (digits n, rest) := by
  unfold wholeRun
  rw [digit_run_of_digits n ends]
  split
  · rename_i c more _ same
    have own : digits n = '0' :: c :: more := congrArg Prod.fst (Option.some.inj same)
    by_cases zero : n = 0
    · rw [zero, digits_zero] at own
      cases own
    · have lead := digits_without_zeros zero
      rw [own] at lead
      exact absurd rfl lead
  · rfl

theorem read_number (n : Nat) {rest : List Char} (ends : Ends rest) :
    number [] (digits n ++ rest) = some (.natural n, rest) := by
  have noPart : fraction rest = some ([], rest) ∧ exponent rest = some ([], rest) := by
    cases rest with
    | nil => exact ⟨rfl, rfl⟩
    | cons c more => rcases ends c more rfl with rfl | rfl | rfl | rfl | rfl <;> exact ⟨rfl, rfl⟩
  simp [number, whole_run_of_digits n ends, noPart, read_nat_of_digits]

theorem value_of_digit {d : Char} (digit : isDigit d = true) (fuel : Nat) (rest : List Char) :
    value (fuel + 1) (d :: rest) = number [] (d :: rest) := by
  have front {c : Char} {more : List Char} (same : d :: rest = c :: more) : isDigit c = true :=
    (List.cons.inj same).1 ▸ digit
  -- Every other kind of value has a mark in front that is no digit.
  rw [value]
  · exact Nat.succ_ne_zero fuel
  · exact fun _ same => Bool.false_ne_true (front same)
  · exact fun _ same => Bool.false_ne_true (front same)
  · exact fun _ same => Bool.false_ne_true (front same)
  · exact fun _ same => Bool.false_ne_true (front same)
  · exact fun _ same => Bool.false_ne_true (front same)
  · exact fun _ _ _ same => Bool.false_ne_true (front same)
  · exact fun _ _ _ same => Bool.false_ne_true (front same)

end Numbers

section Blanks

variable {gap rest : List Char}

theorem skip_blanks_append (blank : Blank gap) (rest : List Char) :
    skipBlanks (gap ++ rest) = skipBlanks rest := by
  induction gap with
  | nil => rfl
  | cons c more ih =>
    have further := ih fun d member => blank d (List.mem_cons_of_mem _ member)
    rcases blank c List.mem_cons_self with rfl | rfl <;> exact further

theorem ends_append (blank : Blank gap) (ends : Ends rest) : Ends (gap ++ rest) := by
  cases gap with
  | nil => exact ends
  | cons c more =>
    rcases blank c List.mem_cons_self with rfl | rfl
    · exact ends_of_cons (.inl rfl)
    · exact ends_of_cons (.inr (.inl rfl))

end Blanks

section Steps

def Starts (text : List Char) : Prop :=
  ∃ c more, text = c :: more ∧ (∀ rest, skipBlanks (c :: rest) = c :: rest) ∧
    c ≠ ']' ∧ c ≠ '\x7d'

variable {fuel level : Nat} {text rest rest' : List Char} {item : Json} {key : String}

theorem starts_append (h : Starts text) (rest : List Char) : Starts (text ++ rest) := by
  obtain ⟨c, more, rfl, solid, open'⟩ := h
  exact ⟨c, more ++ rest, rfl, solid, open'⟩

theorem skip_blanks_of_start (h : Starts text) : skipBlanks text = text := by
  obtain ⟨c, more, rfl, solid, _⟩ := h
  exact solid more

theorem value_of_items (h : Starts (skipBlanks text)) :
    value (fuel + 1) ('[' :: text) =
      (Reader.items fuel (skipBlanks text)).map fun found => (.array found.1, found.2) := by
  obtain ⟨c, more, own, _, noEnd, _⟩ := h
  rw [value, own]
  split
  · rename_i same
    exact absurd (List.cons.inj same).1 noEnd
  · rfl

theorem value_of_members (h : Starts (skipBlanks text)) :
    value (fuel + 1) ('\x7b' :: text) =
      (Reader.members fuel (skipBlanks text)).map fun found => (.object found.1, found.2) := by
  obtain ⟨c, more, own, _, _, noEnd⟩ := h
  rw [value, own]
  split
  · rename_i same
    exact absurd (List.cons.inj same).1 noEnd
  · rfl

theorem items_of_last (last : value fuel text = some (item, rest))
    (closed : skipBlanks rest = ']' :: rest') :
    Reader.items (fuel + 1) text = some ([item], rest') := by
  rw [Reader.items, last]
  dsimp only [bind, Option.bind]
  rw [closed]
  rfl

theorem items_of_more {more : List Json} (first : value fuel text = some (item, ',' :: rest))
    (others : Reader.items fuel (skipBlanks rest) = some (more, rest')) :
    Reader.items (fuel + 1) text = some (item :: more, rest') := by
  rw [Reader.items, first]
  change (Reader.items fuel (skipBlanks rest)).bind _ = _
  rw [others]
  rfl

theorem members_of_last {rest'' : List Char} (named : name text = some (key, rest))
    (last : value fuel rest = some (item, rest')) (closed : skipBlanks rest' = '\x7d' :: rest'') :
    Reader.members (fuel + 1) text = some ([(key, item)], rest'') := by
  rw [Reader.members, named]
  dsimp only [bind, Option.bind]
  rw [last]
  dsimp only
  rw [closed]
  rfl

theorem members_of_more {more : List (String × Json)} {rest'' : List Char}
    (named : name text = some (key, rest)) (first : value fuel rest = some (item, ',' :: rest'))
    (others : Reader.members fuel (skipBlanks rest') = some (more, rest'')) :
    Reader.members (fuel + 1) text = some ((key, item) :: more, rest'') := by
  rw [Reader.members, named]
  dsimp only [bind, Option.bind]
  rw [first]
  change (Reader.members fuel (skipBlanks rest')).bind _ = _
  rw [others]
  rfl

end Steps

section Values

variable {layout : Layout} (regular : layout.Regular) {level : Nat} {item : Json} {key : String}
include regular

theorem value_starts {json : Json} (plain : json.isPlain = true) (level : Nat) :
    Starts (layout.value level json) := by
  cases json with
  | null =>
    rw [regular.scalar level .null rfl]
    exact ⟨_, _, rfl, fun _ => rfl, by decide⟩
  | bool b =>
    rw [regular.scalar level (.bool b) rfl]
    cases b <;> exact ⟨_, _, rfl, fun _ => rfl, by decide⟩
  | natural n =>
    rw [regular.scalar level (.natural n) rfl]
    obtain ⟨d, more, own⟩ := List.exists_cons_of_ne_nil (written_ne_nil digits_positional n)
    have solid : ∀ d < 10, ¬ (digitChar d = ' ' ∨ digitChar d = '\t' ∨ digitChar d = '\n' ∨
        digitChar d = '\r') ∧ digitChar d ≠ ']' ∧ digitChar d ≠ '\x7d' := by decide
    obtain ⟨k, small, rfl⟩ := mem_written digits_positional
      (show d ∈ digits n by rw [own]; exact List.mem_cons_self)
    exact ⟨_, more, own, fun _ => if_neg (solid k small).1, (solid k small).2⟩
  | text s =>
    rw [regular.scalar level (.text s) rfl]
    exact ⟨_, _, rfl, fun _ => rfl, by decide⟩
  | array items =>
    cases items with
    | nil =>
      rw [regular.noItems]
      exact ⟨_, _, rfl, fun _ => rfl, by decide⟩
    | cons item rest =>
      rw [regular.array]
      exact ⟨_, _, rfl, fun _ => rfl, by decide⟩
  | object members =>
    cases members with
    | nil =>
      rw [regular.noMembers]
      exact ⟨_, _, rfl, fun _ => rfl, by decide⟩
    | cons member rest =>
      rw [regular.object]
      exact ⟨_, _, rfl, fun _ => rfl, by decide⟩
  | numeral | unpaired => cases plain

theorem skip_to_value {gap : List Char} (plain : item.isPlain = true) (blank : Blank gap)
    (rest : List Char) :
    skipBlanks (gap ++ (layout.value level item ++ rest)) = layout.value level item ++ rest := by
  rw [skip_blanks_append blank,
    skip_blanks_of_start (starts_append (value_starts regular plain level) rest)]

omit regular in
theorem skip_to_name {gap : List Char} (blank : Blank gap) (rest : List Char) :
    skipBlanks (gap ++ (Writer.string key ++ rest)) = Writer.string key ++ rest := by
  rw [skip_blanks_append blank]
  rfl

theorem read_name_before (plain : item.isPlain = true) (rest : List Char) :
    name (Writer.string key ++ ':' :: (layout.space ++ (layout.value level item ++ rest))) =
      some (key, layout.value level item ++ rest) := by
  rw [read_name, skip_to_value regular plain regular.space]

theorem last_item (plain : item.isPlain = true) (rest : List Char) :
    skipBlanks (layout.items level [item] ++ rest) = layout.value level item ++ rest := by
  rw [regular.lastItem, List.append_assoc, skip_to_value regular plain (regular.gap level)]

theorem earlier_item (plain : item.isPlain = true) (next : Json) (more : List Json)
    (rest : List Char) :
    skipBlanks (layout.items level (item :: next :: more) ++ rest) =
      layout.value level item ++ ',' :: (layout.items level (next :: more) ++ rest) := by
  rw [regular.earlierItem, List.append_assoc, List.append_assoc,
    skip_to_value regular plain (regular.gap level), List.cons_append]

theorem items_start (plain : item.isPlain = true) (more : List Json) (rest : List Char) :
    Starts (skipBlanks (layout.items level (item :: more) ++ rest)) := by
  have start := value_starts regular plain level
  cases more with
  | nil =>
    rw [last_item regular plain]
    exact starts_append start _
  | cons next more =>
    rw [earlier_item regular plain]
    exact starts_append start _

theorem last_member (rest : List Char) :
    skipBlanks (layout.members level [(key, item)] ++ rest) =
      Writer.string key ++ ':' :: (layout.space ++ (layout.value level item ++ rest)) := by
  rw [regular.lastMember]
  simp only [List.append_assoc, List.cons_append]
  rw [skip_to_name (regular.gap level)]

theorem earlier_member (next : String × Json) (more : List (String × Json)) (rest : List Char) :
    skipBlanks (layout.members level ((key, item) :: next :: more) ++ rest) =
      Writer.string key ++ ':' :: (layout.space ++ (layout.value level item ++
        ',' :: (layout.members level (next :: more) ++ rest))) := by
  rw [regular.earlierMember]
  simp only [List.append_assoc, List.cons_append]
  rw [skip_to_name (regular.gap level)]

theorem members_start (member : String × Json) (more : List (String × Json)) (rest : List Char) :
    Starts (skipBlanks (layout.members level (member :: more) ++ rest)) := by
  obtain ⟨key, item⟩ := member
  cases more with
  | nil =>
    rw [last_member regular]
    exact ⟨_, _, rfl, fun _ => rfl, by decide⟩
  | cons next more =>
    rw [earlier_member regular]
    exact ⟨_, _, rfl, fun _ => rfl, by decide⟩

mutual

theorem read_value (level : Nat) (json : Json) (plain : json.isPlain = true) (fuel : Nat)
    (room : (layout.value level json).length < fuel) {rest : List Char} (ends : Ends rest) :
    value fuel (layout.value level json ++ rest) = some (json, rest) := by
  obtain ⟨fuel, rfl⟩ := Nat.exists_eq_succ_of_ne_zero (Nat.ne_zero_of_lt room)
  cases json with
  | null =>
    rw [regular.scalar level .null rfl]
    rfl
  | bool b =>
    rw [regular.scalar level (.bool b) rfl]
    cases b <;> rfl
  | natural n =>
    rw [regular.scalar level (.natural n) rfl]
    obtain ⟨d, more, own⟩ := List.exists_cons_of_ne_nil (written_ne_nil digits_positional n)
    have digit := digits_are_digits n d (by rw [own]; exact List.mem_cons_self)
    have read := read_number n ends
    change value (fuel + 1) (digits n ++ rest) = _
    rw [own, List.cons_append] at read ⊢
    rw [value_of_digit digit, read]
  | text s =>
    rw [regular.scalar level (.text s) rfl]
    change value (fuel + 1) ('"' :: s.toList.flatMap escape ++ ['"'] ++ rest) = _
    rw [List.append_assoc, List.cons_append, List.singleton_append]
    exact read_string_text s rest
  | numeral | unpaired => cases plain
  | array items =>
    cases items with
    | nil =>
      rw [regular.noItems]
      rfl
    | cons item more =>
      rw [regular.array] at room ⊢
      have plains : item.isPlain = true ∧ arePlain more = true := by
        simpa [isPlain, arePlain] using plain
      have short : (layout.items (level + 1) (item :: more)).length + 1 < fuel := by
        simp at room
        omega
      have behind := ends_append (regular.gap level)
        (ends_of_cons (.inr (.inr (.inr (.inl rfl)))) : Ends (']' :: rest))
      have closed : skipBlanks (layout.gap level ++ ']' :: rest) = ']' :: rest :=
        skip_blanks_append (regular.gap level) _
      simp only [List.cons_append, List.append_assoc, List.nil_append]
      rw [value_of_items (items_start regular plains.1 more _),
        read_items (level + 1) (item :: more) (List.cons_ne_nil _ _) plain fuel short behind closed]
      rfl
  | object members =>
    cases members with
    | nil =>
      rw [regular.noMembers]
      rfl
    | cons member more =>
      rw [regular.object] at room ⊢
      have short : (layout.members (level + 1) (member :: more)).length + 1 < fuel := by
        simp at room
        omega
      have behind := ends_append (regular.gap level)
        (ends_of_cons (.inr (.inr (.inr (.inr rfl)))) : Ends ('\x7d' :: rest))
      have closed : skipBlanks (layout.gap level ++ '\x7d' :: rest) = '\x7d' :: rest :=
        skip_blanks_append (regular.gap level) _
      simp only [List.cons_append, List.append_assoc, List.nil_append]
      rw [value_of_members (members_start regular member more _),
        read_members (level + 1) (member :: more) (List.cons_ne_nil _ _) plain fuel short behind
          closed]
      rfl

theorem read_items (level : Nat) (items : List Json) (some : items ≠ [])
    (plain : arePlain items = true) (fuel : Nat)
    (room : (layout.items level items).length + 1 < fuel) {rest rest' : List Char}
    (ends : Ends rest) (closed : skipBlanks rest = ']' :: rest') :
    Reader.items fuel (skipBlanks (layout.items level items ++ rest)) = .some (items, rest') := by
  obtain ⟨fuel, rfl⟩ := Nat.exists_eq_succ_of_ne_zero (Nat.ne_zero_of_lt room)
  cases items with
  | nil => exact absurd rfl some
  | cons item more =>
    have plains : item.isPlain = true ∧ arePlain more = true := by simpa [arePlain] using plain
    cases more with
    | nil =>
      have short : (layout.value level item).length < fuel := by
        simp [regular.lastItem] at room
        omega
      rw [last_item regular plains.1]
      exact items_of_last (read_value level item plains.1 fuel short ends) closed
    | cons next more =>
      have short : (layout.value level item).length < fuel ∧
          (layout.items level (next :: more)).length + 1 < fuel := by
        simp [regular.earlierItem] at room
        omega
      rw [earlier_item regular plains.1]
      exact items_of_more
        (read_value level item plains.1 fuel short.1 (ends_of_cons (.inr (.inr (.inl rfl)))))
        (read_items level (next :: more) (List.cons_ne_nil _ _) plains.2 fuel short.2 ends closed)

theorem read_members (level : Nat) (members : List (String × Json)) (some : members ≠ [])
    (plain : membersPlain members = true) (fuel : Nat)
    (room : (layout.members level members).length + 1 < fuel) {rest rest' : List Char}
    (ends : Ends rest) (closed : skipBlanks rest = '\x7d' :: rest') :
    Reader.members fuel (skipBlanks (layout.members level members ++ rest)) =
      .some (members, rest') := by
  obtain ⟨fuel, rfl⟩ := Nat.exists_eq_succ_of_ne_zero (Nat.ne_zero_of_lt room)
  cases members with
  | nil => exact absurd rfl some
  | cons member more =>
    obtain ⟨key, item⟩ := member
    have plains : item.isPlain = true ∧ membersPlain more = true := by
      simpa [membersPlain] using plain
    cases more with
    | nil =>
      have short : (layout.value level item).length < fuel := by
        simp [regular.lastMember] at room
        omega
      rw [last_member regular]
      exact members_of_last (read_name_before regular plains.1 _)
        (read_value level item plains.1 fuel short ends) closed
    | cons next more =>
      have short : (layout.value level item).length < fuel ∧
          (layout.members level (next :: more)).length + 1 < fuel := by
        simp [regular.earlierMember] at room
        omega
      rw [earlier_member regular]
      exact members_of_more (read_name_before regular plains.1 _)
        (read_value level item plains.1 fuel short.1 (ends_of_cons (.inr (.inr (.inl rfl)))))
        (read_members level (next :: more) (List.cons_ne_nil _ _) plains.2 fuel short.2 ends closed)

end

theorem read_of_regular {json : Json} (plain : json.isPlain = true) :
    read (String.ofList (layout.value 0 json)) = some json := by
  have start : skipBlanks (layout.value 0 json) = layout.value 0 json :=
    skip_blanks_of_start (value_starts regular plain 0)
  have value := read_value regular 0 json plain ((layout.value 0 json).length + 1)
    (Nat.lt_succ_self _) ends_of_nil
  rw [List.append_nil] at value
  unfold read
  rw [String.toList_ofList]
  dsimp only
  rw [start, value]
  rfl

end Values

end Reader

theorem read_of_written {json : Json} (plain : json.isPlain = true) :
    read json.write = some json ∧ read json.writeLines = some json :=
  ⟨Reader.read_of_regular Writer.one_line_is_regular plain,
    Reader.read_of_regular Writer.lines_are_regular plain⟩

end HostHealth.Json
