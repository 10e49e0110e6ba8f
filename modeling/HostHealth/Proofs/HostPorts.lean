import HostHealth.Net.Address
import HostHealth.Proofs.Numerals
import HostHealth.Proofs.Readers

/- Which texts are read as a host and a port on it, and what each of the others is refused for.
   A text that has been joined from the two is read as what it was joined from, unless the host
   already stood in brackets, which are then taken for those of the text. -/
namespace HostHealth.Net.HostPort

open Text

def InBrackets (text : List Char) : Prop := ∃ inside, text = '[' :: inside ++ [']']

structure IsCut (text front port : List Char) : Prop where
  whole : text = front ++ ':' :: port
  last : ':' ∉ port

/-- What stands in front of the port, and the host that it names. -/
inductive Names : List Char → List Char → Prop
  | bracketed {host : List Char} (nonempty : host ≠ []) : Names ('[' :: host ++ [']']) host
  | plain {host : List Char} (nonempty : host ≠ []) (bare : ¬ InBrackets host)
      (whole : ':' ∉ host) : Names host host

/-- A decimal number of 16 bits; a plus sign and any zeros may stand in front. -/
def IsPort (text : List Char) (port : UInt16) : Prop := IsUnsigned text port.toNat

def Spells (text : List Char) (hp : HostPort) : Prop :=
  ∃ front port, IsCut text front port ∧ Names front hp.host.toList ∧ IsPort port hp.port

/-- What a text is refused for: of several faults, the one that comes first here. -/
inductive Refused (text : List Char) : AddressError → Prop
  | missingPort (uncut : ':' ∉ text) : Refused text (.missingPort (String.ofList text))
  | tooManyColons {front port : List Char} (cut : IsCut text front port)
      (bare : ¬ InBrackets front) (parted : ':' ∈ front) :
      Refused text (.tooManyColons (String.ofList text))
  | missingHost {front port : List Char} (cut : IsCut text front port)
      (empty : front = [] ∨ front = ['[', ']']) : Refused text (.missingHost (String.ofList text))
  | invalidPort {front port host : List Char} (cut : IsCut text front port)
      (named : Names front host) (unread : ∀ n, ¬ IsPort port n) :
      Refused text (.invalidPort (String.ofList port) (String.ofList text))

section Reading

variable {text front port host inside : List Char} {hp : HostPort} {e : AddressError}

theorem unbracket_some_iff : unbracket? front = some inside ↔ front = '[' :: inside ++ [']'] := by
  cases front with
  | nil => simp [unbracket?]
  | cons c rest =>
    by_cases opens : c = '['
    · rw [opens, unbracket?, drop_last_some_iff]
      simp
    · have other : unbracket? (c :: rest) = none := by simp [unbracket?, opens]
      simp [other, opens]

theorem unbracket_none_iff : unbracket? front = none ↔ ¬ InBrackets front := by
  simp only [InBrackets, ← unbracket_some_iff, Option.eq_none_iff_forall_ne_some, ne_eq,
    not_exists]

theorem is_port_iff {n : UInt16} : IsPort port n ↔ readUnsigned 65536 port = some n.toNat := by
  rw [read_unsigned_iff]
  exact (and_iff_left n.toNat_lt).symm

theorem unread_port_iff : readUnsigned 65536 port = none ↔ ∀ n, ¬ IsPort port n := by
  simp only [is_port_iff]
  constructor
  · intro unread n
    simp [unread]
  · intro unread
    cases read : readUnsigned 65536 port with
    | none => rfl
    | some n =>
      have bound := (read_unsigned_iff.mp read).2
      exact absurd (by rw [read, UInt16.toNat_ofNat_of_lt' bound]) (unread (UInt16.ofNat n))

theorem cut_found_iff : cutLast ':' text = some (front, port) ↔ IsCut text front port := by
  rw [cut_last_some_iff]
  exact ⟨fun ⟨whole, last⟩ => ⟨whole, last⟩, fun ⟨whole, last⟩ => ⟨whole, last⟩⟩

theorem read_uncut (uncut : ':' ∉ text) :
    readChars text = .error (.missingPort (String.ofList text)) := by
  rw [readChars, cut_last_none_iff.mpr uncut]

theorem read_of_many_colons (cut : IsCut text front port) (bare : ¬ InBrackets front)
    (parted : ':' ∈ front) : readChars text = .error (.tooManyColons (String.ofList text)) := by
  rw [readChars, cut_found_iff.mpr cut]
  dsimp only
  rw [unbracket_none_iff.mpr bare]
  dsimp only
  rw [if_pos parted]
  rfl

theorem read_of_no_host (cut : IsCut text front port) (empty : front = [] ∨ front = ['[', ']']) :
    readChars text = .error (.missingHost (String.ofList text)) := by
  rw [readChars, cut_found_iff.mpr cut]
  rcases empty with nothing | brackets
  · rw [nothing]
    rfl
  · rw [brackets]
    rfl

theorem read_of_named (cut : IsCut text front port) (named : Names front host) :
    readChars text = match readUnsigned 65536 port with
      | some n => .ok ⟨String.ofList host, UInt16.ofNat n⟩
      | none => .error (.invalidPort (String.ofList port) (String.ofList text)) := by
  rw [readChars, cut_found_iff.mpr cut]
  dsimp only
  cases named with
  | bracketed nonempty =>
    rw [unbracket_some_iff.mpr rfl]
    exact if_neg (by simpa using nonempty)
  | plain nonempty bare whole =>
    rw [unbracket_none_iff.mpr bare]
    dsimp only
    rw [if_neg whole]
    exact if_neg (by simpa using nonempty)

theorem front_cases (front : List Char) :
    (¬ InBrackets front ∧ ':' ∈ front) ∨ (front = [] ∨ front = ['[', ']']) ∨
      ∃ host, Names front host := by
  by_cases brackets : InBrackets front
  · obtain ⟨inside, own⟩ := brackets
    by_cases empty : inside = []
    · simp [own, empty]
    · rw [own]
      exact .inr (.inr ⟨inside, .bracketed empty⟩)
  · by_cases parted : ':' ∈ front
    · exact .inl ⟨brackets, parted⟩
    · by_cases empty : front = []
      · simp [empty]
      · exact .inr (.inr ⟨front, .plain empty brackets parted⟩)

theorem verdict_cases (text : List Char) :
    (∃ hp, Spells text hp) ∨ ∃ e, Refused text e := by
  cases own : cutLast ':' text with
  | none => exact .inr ⟨_, .missingPort (cut_last_none_iff.mp own)⟩
  | some parts =>
    obtain ⟨front, port⟩ := parts
    have cut := cut_found_iff.mp own
    rcases front_cases front with ⟨bare, parted⟩ | empty | ⟨host, named⟩
    · exact .inr ⟨_, .tooManyColons cut bare parted⟩
    · exact .inr ⟨_, .missingHost cut empty⟩
    · by_cases read : ∃ n, IsPort port n
      · obtain ⟨n, read⟩ := read
        have same : (String.ofList host).toList = host := String.toList_ofList
        exact .inl ⟨⟨String.ofList host, n⟩, front, port, cut, by rwa [same], read⟩
      · exact .inr ⟨_, .invalidPort cut named (not_exists.mp read)⟩

theorem read_of_spelled (spelled : Spells text hp) : readChars text = .ok hp := by
  obtain ⟨front, port, cut, named, read⟩ := spelled
  rw [read_of_named cut named, is_port_iff.mp read]
  simp

theorem read_of_refused (refused : Refused text e) : readChars text = .error e := by
  cases refused with
  | missingPort uncut => exact read_uncut uncut
  | tooManyColons cut bare parted => exact read_of_many_colons cut bare parted
  | missingHost cut empty => exact read_of_no_host cut empty
  | invalidPort cut named unread => rw [read_of_named cut named, unread_port_iff.mpr unread]

theorem read_chars_verdicts (text : List Char) :
    (∀ hp, readChars text = .ok hp ↔ Spells text hp) ∧
      ∀ e, readChars text = .error e ↔ Refused text e :=
  verdicts_are_exact (fun _ => read_of_spelled) (fun _ => read_of_refused) (verdict_cases text)

theorem read_chars_ok_iff : readChars text = .ok hp ↔ Spells text hp :=
  (read_chars_verdicts text).1 hp

theorem read_chars_error_iff : readChars text = .error e ↔ Refused text e :=
  (read_chars_verdicts text).2 e

theorem message_of_refused (refused : Refused text e) :
    ∃ fault, e.message = fault ++ " in address " ++ quote (String.ofList text) := by
  cases refused with
  | missingPort => exact ⟨"missing port", rfl⟩
  | tooManyColons => exact ⟨"too many colons", rfl⟩
  | missingHost => exact ⟨"missing host", rfl⟩
  | invalidPort => exact ⟨_, rfl⟩

end Reading

/-- What the reader of addresses makes of any text: the host and the port that it spells, or else
    the one fault that it is refused for, told with the whole of the text. -/
theorem address_is_read_or_refused (text : String) :
    (∀ hp, read text = .ok hp ↔ Spells text.toList hp) ∧
      (∀ e, read text = .error e ↔ Refused text.toList e) ∧
      ∀ e, read text = .error e → ∃ fault, e.message = fault ++ " in address " ++ quote text := by
  refine ⟨fun hp => read_chars_ok_iff, fun e => read_chars_error_iff, ?_⟩
  intro e refused
  have message := message_of_refused (read_chars_error_iff.mp refused)
  rwa [String.ofList_toList] at message

theorem verdicts_on_brackets :
    Spells "[[]:]:+080".toList ⟨"[]:", 80⟩ ∧ read "[]:+" = .error (.missingHost "[]:+") ∧
      Refused "[]:+".toList (.missingHost "[]:+") ∧ ∃ fault, (AddressError.missingHost "[]:+").message =
        fault ++ " in address " ++ quote "[]:+" := by
  have nested : read "[[]:]:+080" = .ok ⟨"[]:", 80⟩ := by decide
  have empty : read "[]:+" = .error (.missingHost "[]:+") := by decide
  obtain ⟨spelled, _, _⟩ := address_is_read_or_refused "[[]:]:+080"
  obtain ⟨_, refused, told⟩ := address_is_read_or_refused "[]:+"
  exact ⟨(spelled _).mp nested, empty, (refused _).mp empty, told _ empty⟩

section Joining

variable {host port : String} {n : UInt16}

theorem join_of_parted (parted : ':' ∈ host.toList) :
    (join host port).toList = '[' :: host.toList ++ [']'] ++ ':' :: port.toList := by
  simp [join, parted]

theorem join_of_whole (whole : ':' ∉ host.toList) :
    (join host port).toList = host.toList ++ ':' :: port.toList := by
  simp [join, whole]

theorem port_is_uncut (read : IsPort port.toList n) : ':' ∉ port.toList :=
  unsigned_has_no read rfl (by decide)

theorem digits_are_port (n : UInt16) : IsPort (digits n.toNat) n :=
  ⟨digits n.toNat, .inl rfl, digits_are_numeral n.toNat⟩

theorem spelled_by_join (nonempty : host ≠ "") (read : IsPort port.toList n)
    (clear : ':' ∈ host.toList ∨ ¬ InBrackets host.toList) :
    Spells (join host port).toList ⟨host, n⟩ := by
  have filled : host.toList ≠ [] := by simpa using nonempty
  by_cases parted : ':' ∈ host.toList
  · exact ⟨_, _, ⟨join_of_parted parted, port_is_uncut read⟩, .bracketed filled, read⟩
  · exact ⟨_, _, ⟨join_of_whole parted, port_is_uncut read⟩,
      .plain filled (clear.resolve_left parted) parted, read⟩

theorem named_cases {front host : List Char} (named : Names front host) :
    host ≠ [] ∧ (front = '[' :: host ++ [']'] ∨ front = host ∧ ¬ InBrackets host ∧ ':' ∉ host) := by
  cases named with
  | bracketed nonempty => exact ⟨nonempty, .inl rfl⟩
  | plain nonempty bare whole => exact ⟨nonempty, .inr ⟨rfl, bare, whole⟩⟩

theorem of_spelled_join (spelled : Spells (join host port).toList ⟨host, n⟩) :
    host ≠ "" ∧ IsPort port.toList n ∧ (':' ∈ host.toList ∨ ¬ InBrackets host.toList) := by
  -- A host with a colon is named only through the brackets that joining puts around it. One without
  -- ends at the first colon of the text, so it cannot have shed brackets.
  obtain ⟨front, own, cut, named, read⟩ := spelled
  obtain ⟨nonempty, shape⟩ := named_cases named
  have nonempty : host ≠ "" := by simpa using nonempty
  have whole := cut.whole
  by_cases parted : ':' ∈ host.toList
  · have brackets := shape.resolve_right fun plain => plain.2.2 parted
    rw [join_of_parted parted, brackets, List.append_cancel_left_eq, List.cons.injEq] at whole
    rw [← whole.2] at read
    exact ⟨nonempty, read, .inl parted⟩
  · rw [join_of_whole parted] at whole
    rcases shape with brackets | ⟨same, bare, -⟩
    · have outer : ':' ∉ front := by simp [brackets, parted]
      have twice : some (host.toList, port.toList) = some (front, own) := by
        rw [← cut_first_append parted, whole, cut_first_append outer]
      have longer : host.toList.length = front.length := by
        rw [(Prod.mk.inj (Option.some.inj twice)).1]
      rw [brackets] at longer
      simp only [List.length_append, List.length_cons, List.length_nil] at longer
      omega
    · rw [same, List.append_cancel_left_eq, List.cons.injEq] at whole
      rw [← whole.2] at read
      exact ⟨nonempty, read, .inr bare⟩

theorem spelled_join_iff : Spells (join host port).toList ⟨host, n⟩ ↔
    host ≠ "" ∧ IsPort port.toList n ∧ (':' ∈ host.toList ∨ ¬ InBrackets host.toList) := by
  constructor
  · exact of_spelled_join
  · intro ⟨nonempty, read, clear⟩
    exact spelled_by_join nonempty read clear

def joined (hp : HostPort) : String := join hp.host (decimal hp.port.toNat)

theorem joined_is_spelled {text : List Char} {hp : HostPort} (spelled : Spells text hp)
    (clear : ':' ∈ hp.host.toList ∨ ¬ InBrackets hp.host.toList) : Spells hp.joined.toList hp := by
  obtain ⟨front, port, _, named, _⟩ := spelled
  have nonempty : hp.host ≠ "" := by simpa using (named_cases named).1
  refine spelled_by_join nonempty ?_ clear
  rw [decimal, String.toList_ofList]
  exact digits_are_port hp.port

end Joining

/-- A joined text is read as what it was joined from exactly when there is a host, the port is
    one, and brackets around the host are the ones of the text. So the text that a host and port
    that have been read are joined to is read as the same, and joined to the same text again. -/
theorem joined_text_comes_apart :
    (∀ host port n, read (join host port) = .ok ⟨host, n⟩ ↔
      host ≠ "" ∧ IsPort port.toList n ∧ (':' ∈ host.toList ∨ ¬ InBrackets host.toList)) ∧
      ∀ address hp, read address = .ok hp →
        (':' ∈ hp.host.toList ∨ ¬ InBrackets hp.host.toList) →
        read hp.joined = .ok hp ∧ (read hp.joined).map joined = .ok hp.joined := by
  refine ⟨fun host port n => read_chars_ok_iff.trans spelled_join_iff, ?_⟩
  intro address hp read_address clear
  have again : read hp.joined = .ok hp :=
    read_chars_ok_iff.mpr (joined_is_spelled (read_chars_ok_iff.mp read_address) clear)
  refine ⟨again, ?_⟩
  rw [again]
  rfl

theorem loopback_joined_again :
    read "[::1]:+080" = .ok ⟨"::1", 80⟩ ∧ joined ⟨"::1", 80⟩ = "[::1]:80" ∧
      read "[::1]:80" = .ok ⟨"::1", 80⟩ ∧ (read "[::1]:80").map joined = .ok "[::1]:80" := by
  have first : read "[::1]:+080" = .ok ⟨"::1", 80⟩ := by decide
  have text : joined ⟨"::1", 80⟩ = "[::1]:80" := by decide +kernel
  have again := joined_text_comes_apart.2 _ _ first (.inl (by decide))
  rw [text] at again
  exact ⟨first, text, again⟩

end HostHealth.Net.HostPort
