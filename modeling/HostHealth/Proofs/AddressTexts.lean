import HostHealth.Net.Address
import HostHealth.Proofs.Readers
import Mathlib

/- Which texts are read as a dial target with a protocol, and what each of the others is refused
   for. The target may hold slashes of its own, as only the last one counts, and nothing but the
   case of the protocol gets lost. -/
namespace HostHealth.Net

open Text

def InAnyCase (word text : List Char) : Prop :=
  List.Forall₂ (fun letter c => c = letter ∨ c = letter.toUpper) word text

theorem to_lower_eq_iff {letter c : Char} (small : letter.toLower = letter) :
    c.toLower = letter ↔ c = letter ∨ c = letter.toUpper := by
  constructor
  · intro same
    cases capital : c.isUpper with
    | true =>
      have own : c.toUpper = c := Char.toUpper_eq_of_not_isLower (by
        simp [Char.not_isLower_of_isUpper capital])
      right
      rw [← same, Char.toUpper_toLower_eq_toUpper, own]
    | false =>
      left
      rw [← same, Char.toLower_eq_of_not_isUpper (by simp [capital])]
  · rintro (rfl | rfl)
    · exact small
    · rw [Char.toLower_toUpper_eq_toLower, small]

theorem lower_ascii_iff {word text : List Char} (small : ∀ c ∈ word, c.toLower = c) :
    lowerAscii text = word ↔ InAnyCase word text := by
  unfold lowerAscii InAnyCase
  induction text generalizing word with
  | nil => rw [List.map_nil, List.forall₂_nil_right_iff, eq_comm]
  | cons c rest ih =>
    cases word with
    | nil =>
      rw [List.map_cons, List.forall₂_nil_left_iff]
      exact iff_of_false nofun nofun
    | cons letter more =>
      obtain ⟨first, later⟩ := List.forall_mem_cons.mp small
      rw [List.map_cons, List.cons.injEq, List.forall₂_cons, to_lower_eq_iff first, ih later]

namespace Protocol

theorem name_is_small (p : Protocol) : ∀ c ∈ p.name.toList, c.toLower = c := by
  cases p <;> simp [name]

theorem read_name_iff {text : List Char} {p : Protocol} :
    read? text = some p ↔ InAnyCase p.name.toList text := by
  rw [← lower_ascii_iff p.name_is_small]
  constructor
  · intro found
    have same := List.find?_some found
    exact (by simpa using same : p.name.toList = lowerAscii text).symm
  · intro same
    unfold read?
    rw [same]
    cases p <;> decide

theorem read_ok_iff {text : List Char} {p : Protocol} :
    read text = .ok p ↔ InAnyCase p.name.toList text := by
  rw [← read_name_iff, read]
  cases read? text <;> simp

theorem read_of_unnamed {text : List Char} (unnamed : ∀ p : Protocol, ¬ InAnyCase p.name.toList text) :
    read text = .error (.unknownProtocol (String.ofList text)) := by
  have none : read? text = none :=
    Option.eq_none_iff_forall_ne_some.mpr fun p found => unnamed p (read_name_iff.mp found)
  rw [read, none]

end Protocol

namespace NetAddress

structure IsCut (text front name : List Char) : Prop where
  whole : text = front ++ '/' :: name
  last : '/' ∉ name

def Spells (text : List Char) (a : NetAddress) : Prop :=
  ∃ name, IsCut text a.address.toList name ∧ (∃ hp, HostPort.read a.address = .ok hp) ∧
    InAnyCase a.protocol.name.toList name

/-- What a text is refused for: of several faults, the one that comes first here. -/
inductive Refused (text : List Char) : AddressError → Prop
  | missingProtocol (uncut : '/' ∉ text) : Refused text (.missingProtocol (String.ofList text))
  | badTarget {front name : List Char} {e : AddressError} (cut : IsCut text front name)
      (refused : HostPort.read (String.ofList front) = .error e) : Refused text e
  | unknownProtocol {front name : List Char} {hp : HostPort} (cut : IsCut text front name)
      (target : HostPort.read (String.ofList front) = .ok hp)
      (unnamed : ∀ p : Protocol, ¬ InAnyCase p.name.toList name) :
      Refused text (.unknownProtocol (String.ofList name))

section Reading

variable {text front name : List Char} {a : NetAddress} {e : AddressError}

theorem cut_found_iff : cutLast '/' text = some (front, name) ↔ IsCut text front name := by
  rw [cut_last_some_iff]
  exact ⟨fun ⟨whole, last⟩ => ⟨whole, last⟩, fun ⟨whole, last⟩ => ⟨whole, last⟩⟩

theorem read_of_cut (cut : IsCut text front name) : read (String.ofList text) =
    (HostPort.read (String.ofList front)).bind fun _ =>
      (Protocol.read name).map fun p => ⟨String.ofList front, p⟩ := by
  rw [read, HostPort.read, String.toList_ofList, String.toList_ofList, cut_found_iff.mpr cut]
  rfl

theorem read_of_spelled (spelled : Spells text a) : read (String.ofList text) = .ok a := by
  obtain ⟨name, cut, ⟨hp, target⟩, named⟩ := spelled
  rw [read_of_cut cut, String.ofList_toList, target, Protocol.read_ok_iff.mpr named]
  rfl

theorem read_of_refused (refused : Refused text e) : read (String.ofList text) = .error e := by
  cases refused with
  | missingProtocol uncut =>
    rw [read, String.toList_ofList, cut_last_none_iff.mpr uncut]
  | badTarget cut refused =>
    rw [read_of_cut cut, refused]
    rfl
  | unknownProtocol cut target unnamed =>
    rw [read_of_cut cut, target, Protocol.read_of_unnamed unnamed]
    rfl

theorem verdict_cases (text : List Char) : (∃ a, Spells text a) ∨ ∃ e, Refused text e := by
  cases own : cutLast '/' text with
  | none => exact .inr ⟨_, .missingProtocol (cut_last_none_iff.mp own)⟩
  | some parts =>
    obtain ⟨front, name⟩ := parts
    have cut := cut_found_iff.mp own
    cases target : HostPort.read (String.ofList front) with
    | error e => exact .inr ⟨e, .badTarget cut target⟩
    | ok hp =>
      by_cases named : ∃ p : Protocol, InAnyCase p.name.toList name
      · obtain ⟨p, named⟩ := named
        have same : (String.ofList front).toList = front := String.toList_ofList
        exact .inl ⟨⟨String.ofList front, p⟩, name, by rwa [same], ⟨hp, target⟩, named⟩
      · exact .inr ⟨_, .unknownProtocol cut target (not_exists.mp named)⟩

theorem read_verdicts (text : String) :
    (∀ a, read text = .ok a ↔ Spells text.toList a) ∧
      ∀ e, read text = .error e ↔ Refused text.toList e := by
  rw [← String.ofList_toList (s := text)]
  rw [String.toList_ofList]
  exact verdicts_are_exact (fun _ => read_of_spelled) (fun _ => read_of_refused)
    (verdict_cases text.toList)

theorem text_chars (a : NetAddress) :
    a.text.toList = a.address.toList ++ '/' :: a.protocol.name.toList := by
  simp [NetAddress.text]

theorem text_is_cut (a : NetAddress) :
    IsCut a.text.toList a.address.toList a.protocol.name.toList := by
  refine ⟨a.text_chars, ?_⟩
  cases a.protocol <;> decide

theorem text_is_spelled (target : ∃ hp, HostPort.read a.address = .ok hp) :
    Spells a.text.toList a := by
  refine ⟨_, a.text_is_cut, target, ?_⟩
  exact (lower_ascii_iff a.protocol.name_is_small).mp
    ((List.map_congr_left a.protocol.name_is_small).trans (List.map_id' _))

theorem text_of_spelled (spelled : Spells text a) :
    ∃ front name, IsCut text front name ∧ a.text.toList = front ++ '/' :: lowerAscii name := by
  obtain ⟨name, cut, _, named⟩ := spelled
  refine ⟨_, name, cut, ?_⟩
  rw [text_chars, (lower_ascii_iff a.protocol.name_is_small).mpr named]

end Reading

/-- An address with a readable target comes back from its text. Any text is read as the address that
    it spells, whose own text is the same but for the capitals behind the last slash, or else refused
    for the first of its faults. -/
theorem address_text_is_exact :
    (∀ a : NetAddress, (∃ hp, HostPort.read a.address = .ok hp) → read a.text = .ok a) ∧
      ∀ text : String,
        (∀ a, read text = .ok a ↔ Spells text.toList a) ∧
        (∀ e, read text = .error e ↔ Refused text.toList e) ∧
        ∀ a, read text = .ok a → ∃ front name, IsCut text.toList front name ∧
          a.text.toList = front ++ '/' :: lowerAscii name := by
  constructor
  · intro a target
    exact ((read_verdicts a.text).1 a).mpr (text_is_spelled target)
  · intro text
    obtain ⟨accepted, refused⟩ := read_verdicts text
    exact ⟨accepted, refused, fun a found => text_of_spelled ((accepted a).mp found)⟩

theorem texts_with_slashes :
    read (text ⟨"a/b:80", .quic⟩) = .ok ⟨"a/b:80", .quic⟩ ∧
      (∃ front name, IsCut "a/b:80/QuIC".toList front name ∧
        (text ⟨"a/b:80", .quic⟩).toList = front ++ '/' :: lowerAscii name) ∧
      Refused "a/b:x/http/".toList (.invalidPort "x/http" "a/b:x/http") := by
  obtain ⟨back, exactly⟩ := address_text_is_exact
  have mixed : read "a/b:80/QuIC" = .ok ⟨"a/b:80", .quic⟩ := by decide
  have faulty : read "a/b:x/http/" = .error (.invalidPort "x/http" "a/b:x/http") := by decide
  exact ⟨back _ ⟨⟨"a/b", 80⟩, by decide⟩, (exactly _).2.2 _ mixed, ((exactly _).2.1 _).mp faulty⟩

end NetAddress
end HostHealth.Net
