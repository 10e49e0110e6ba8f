import HostHealth.Net.Json
import HostHealth.Proofs.HexTexts
import HostHealth.Proofs.Readers
import HostHealth.Proofs.WrittenNumbers
import Mathlib.Data.List.TakeWhile

/- Internet addresses, host keys and protocols are read as what they were written for. An IPv6
   address comes back whichever run of zeros is left out, as its groups before and after fix how
   many have to be put in. -/
namespace HostHealth

namespace Net

open Text

namespace Ipv4

theorem read_octet_of_digits (n : UInt8) : readOctet (digits n.toNat) = some n := by
  have bound : n.toNat < 256 := n.toNat_lt
  have short : (digits n.toNat).length ≤ 3 :=
    length_of_written digits_positional (Nat.lt_trans bound (by decide))
  have lead : (digits n.toNat).head? ≠ some '0' ∨ (digits n.toNat).length = 1 := by
    by_cases zero : n.toNat = 0
    · right
      rw [zero, digits_zero]
      rfl
    · exact .inl (digits_without_zeros zero)
  rw [readOctet, if_pos ⟨short, lead⟩, read_below_of_digits bound]
  simp

theorem pieces_of_chars (ip : Ipv4) : pieces (· == '.') ip.chars =
    [digits ip.a.toNat, digits ip.b.toNat, digits ip.c.toNat, digits ip.d.toNat] := by
  have whole (n : Nat) : ∀ c ∈ digits n, (c == '.') = false := digits_have_no (by decide)
  unfold chars
  simp only [List.append_assoc, List.cons_append]
  rw [pieces_append (whole _) rfl, pieces_append (whole _) rfl, pieces_append (whole _) rfl,
    pieces_of_whole (whole _)]

theorem read_of_chars (ip : Ipv4) : readChars ip.chars = some ip := by
  unfold readChars
  rw [pieces_of_chars]
  simp [read_octet_of_digits]

theorem chars_have_no {separates : Char → Bool} (ip : Ipv4)
    (digit : ∀ d < 10, separates (digitChar d) = false) (point : separates '.' = false) :
    ∀ c ∈ ip.chars, separates c = false := by
  have plain (n : Nat) : ∀ c ∈ digits n, separates c = false := digits_have_no digit
  unfold chars
  simp only [List.forall_mem_append, List.forall_mem_cons]
  exact ⟨⟨⟨plain _, point, plain _⟩, point, plain _⟩, point, plain _⟩

theorem read_undotted {text : List Char} (undotted : ∀ c ∈ text, (c == '.') = false) :
    readChars text = none := by
  unfold readChars
  rw [pieces_of_whole undotted]

theorem read_long_start {front rest : List Char} (undotted : ∀ c ∈ front, (c == '.') = false)
    (long : 3 < front.length) : readChars (front ++ '.' :: rest) = none := by
  unfold readChars
  rw [pieces_append undotted rfl]
  split
  · rename_i same
    obtain ⟨rfl, _⟩ := List.cons.inj same
    rw [readOctet, if_neg (by omega)]
    rfl
  · rfl

theorem words_of_words (high low : UInt16) :
    (ofWords high low).high = high ∧ (ofWords high low).low = low := by
  have each (word : UInt16) :
      (word / 256).toUInt8.toUInt16 * 256 + word.toUInt8.toUInt16 = word := by
    apply UInt16.toNat.inj
    have bound : word.toNat < 65536 := word.toNat_lt
    simp
    omega
  exact ⟨each high, each low⟩

end Ipv4

namespace Ipv6

theorem read_group_of_digits (g : UInt16) : readGroup (hexDigits g.toNat) = some g := by
  have short : (hexDigits g.toNat).length ≤ 4 :=
    length_of_written hex_digits_positional g.toNat_lt
  rw [readGroup, if_pos short, read_written hex_digits_positional (by decide)]
  simp

theorem digits_undotted (n : Nat) : ∀ c ∈ hexDigits n, (c == '.') = false :=
  hex_digits_have_no (by decide)

theorem read_groups (groups : List UInt16) :
    (groups.map fun g => hexDigits g.toNat).mapM readGroup = some groups := by
  induction groups with
  | nil => rfl
  | cons g rest ih =>
    rw [List.map_cons, List.mapM_cons, read_group_of_digits, ih]
    rfl

theorem read_tail_groups (groups : List UInt16) :
    readTail (groups.map fun g => hexDigits g.toNat) = some groups := by
  induction groups with
  | nil => rfl
  | cons g rest ih =>
    cases rest with
    | nil =>
      rw [List.map_singleton, readTail, Ipv4.read_undotted (digits_undotted _),
        read_group_of_digits]
      rfl
    | cons next rest =>
      rw [List.map_cons] at ih ⊢
      rw [List.map_cons, readTail, read_group_of_digits, ih]
      · rfl
      · exact fun none => nomatch none

theorem group_chars_cons (g next : UInt16) (rest : List UInt16) :
    groupChars (g :: next :: rest) = hexDigits g.toNat ++ ':' :: groupChars (next :: rest) := by
  unfold groupChars
  rw [List.map_cons, List.map_cons, List.intercalate_cons_cons]
  simp

theorem group_chars_singleton (g : UInt16) : groupChars [g] = hexDigits g.toNat := by
  unfold groupChars
  simp

theorem digits_have_no_colon (n : Nat) : ∀ c ∈ hexDigits n, (c == ':') = false :=
  hex_digits_have_no (by decide)

theorem group_chars_start (g : UInt16) (rest : List UInt16) :
    ∃ c more, groupChars (g :: rest) = c :: more ∧ (c == ':') = false := by
  obtain ⟨c, more, own⟩ := List.exists_cons_of_ne_nil (written_ne_nil hex_digits_positional g.toNat)
  have plain := digits_have_no_colon g.toNat c (by rw [own]; exact List.mem_cons_self)
  cases rest with
  | nil => exact ⟨c, more, by rw [group_chars_singleton, own], plain⟩
  | cons next rest => exact ⟨c, _, by rw [group_chars_cons, own, List.cons_append], plain⟩

theorem pieces_of_groups (g : UInt16) (rest : List UInt16) :
    pieces (· == ':') (groupChars (g :: rest)) =
      (g :: rest).map fun g => hexDigits g.toNat := by
  induction rest generalizing g with
  | nil =>
    rw [group_chars_singleton, pieces_of_whole (digits_have_no_colon _), List.map_singleton]
  | cons next rest ih =>
    rw [group_chars_cons, pieces_append (digits_have_no_colon _) rfl, ih]
    rfl

theorem texts_of_groups (groups : List UInt16) :
    groupTexts (groupChars groups) = groups.map fun g => hexDigits g.toNat := by
  cases groups with
  | nil => rfl
  | cons g rest =>
    obtain ⟨c, more, start, _⟩ := group_chars_start g rest
    rw [groupTexts, start, if_neg (by simp), ← start, pieces_of_groups]

theorem cut_gap_after_word {word : List Char} (whole : ∀ c ∈ word, (c == ':') = false)
    (tail : List Char) :
    cutGap (word ++ tail) = (cutGap tail).map fun parts => (word ++ parts.1, parts.2) := by
  induction word with
  | nil => simp
  | cons c rest ih =>
    have own : c ≠ ':' := by simpa using whole c List.mem_cons_self
    rw [List.cons_append, cutGap, ih fun d member => whole d (List.mem_cons_of_mem _ member),
      Option.map_map]
    · rfl
    · exact fun _ same => absurd same own

theorem cut_gap_after_colon {c : Char} (plain : (c == ':') = false) (tail : List Char) :
    cutGap (':' :: c :: tail) =
      (cutGap (c :: tail)).map fun parts => (':' :: parts.1, parts.2) := by
  have own : c ≠ ':' := by simpa using plain
  rw [cutGap]
  exact fun _ _ same => absurd (List.cons.inj same).1 own

theorem cut_gap_after_groups (groups : List UInt16) (tail : List Char) :
    cutGap (groupChars groups ++ tail) =
      (cutGap tail).map fun parts => (groupChars groups ++ parts.1, parts.2) := by
  cases groups with
  | nil => simp [groupChars]
  | cons g rest =>
    induction rest generalizing g with
    | nil => rw [group_chars_singleton, cut_gap_after_word (digits_have_no_colon _)]
    | cons next rest ih =>
      obtain ⟨c, more, start, plain⟩ := group_chars_start next rest
      rw [group_chars_cons, List.append_assoc, List.cons_append,
        cut_gap_after_word (digits_have_no_colon _), start, List.cons_append,
        cut_gap_after_colon plain, ← List.cons_append, ← start, ih, Option.map_map, Option.map_map]
      congr 1
      funext parts
      simp [start]

theorem read_without_gap (groups : List UInt16) :
    readChars (groupChars groups) = ofGroups? groups := by
  have cut := cut_gap_after_groups groups []
  rw [List.append_nil] at cut
  unfold readChars
  rw [cut]
  dsimp only [cutGap, Option.map_none]
  rw [texts_of_groups, read_tail_groups]
  rfl

theorem read_around_gap {head tail : List UInt16} {back : List Char}
    (ends : readTail (groupTexts back) = some tail) (short : head.length + tail.length < 8) :
    readChars (groupChars head ++ ':' :: ':' :: back) =
      ofGroups? (head ++ List.replicate (8 - head.length - tail.length) 0 ++ tail) := by
  have gap : cutGap (':' :: ':' :: back) = some ([], back) := rfl
  unfold readChars
  rw [cut_gap_after_groups, gap]
  dsimp only [Option.map_some]
  rw [List.append_nil, texts_of_groups, read_groups, ends]
  exact if_pos short

theorem zeros_fit (groups : List UInt16) (start : Nat) :
    zerosFrom groups start ≤ groups.length - start := by
  unfold zerosFrom
  rw [← List.length_drop]
  exact (List.takeWhile_prefix _).length_le

theorem zeros_fill_gap (groups : List UInt16) (start : Nat) :
    groups.take start ++ List.replicate (zerosFrom groups start) 0 ++
      groups.drop (start + zerosFrom groups start) = groups := by
  have zeros : (groups.drop start).takeWhile (· == 0) =
      List.replicate (zerosFrom groups start) 0 := by
    refine List.eq_replicate_iff.mpr ⟨rfl, ?_⟩
    intro g member
    simpa using List.mem_takeWhile_imp member
  have whole : List.replicate (zerosFrom groups start) 0 ++ (groups.drop start).dropWhile (· == 0) =
      groups.drop start := by
    rw [← zeros, List.takeWhile_append_dropWhile]
  have after : groups.drop (start + zerosFrom groups start) =
      (groups.drop start).dropWhile (· == 0) := by
    rw [← List.drop_drop, ← whole, List.drop_left' (List.length_replicate), whole]
  rw [after, List.append_assoc, whole, List.take_append_drop]

theorem read_across_zeros (ip : Ipv6) {start : Nat} (some : 1 ≤ zerosFrom ip.groups start) :
    readChars (groupChars (ip.groups.take start) ++
      ':' :: ':' :: groupChars (ip.groups.drop (start + zerosFrom ip.groups start))) = ip := by
  have size := ip.size
  have fit := zeros_fit ip.groups start
  have head : (ip.groups.take start).length = start := List.length_take_of_le (by omega)
  have tail : (ip.groups.drop (start + zerosFrom ip.groups start)).length =
      8 - (start + zerosFrom ip.groups start) := by
    rw [List.length_drop, size]
  have gap : 8 - start - (8 - (start + zerosFrom ip.groups start)) =
      zerosFrom ip.groups start := by omega
  rw [read_around_gap (by rw [texts_of_groups, read_tail_groups]) (by omega), head, tail, gap,
    zeros_fill_gap]
  exact dif_pos size

theorem read_of_gapped (ip : Ipv6) : readChars (gapped ip.groups) = some ip := by
  unfold gapped
  dsimp only
  split
  · exact read_across_zeros ip (by omega)
  · rw [read_without_gap]
    exact dif_pos ip.size

theorem read_of_dotted (ip : Ipv4) :
    readChars ("::ffff:".toList ++ ip.chars) =
      ofGroups? [0, 0, 0, 0, 0, 0xFFFF, ip.high, ip.low] := by
  have whole : ∀ c ∈ ip.chars, (c == ':') = false := ip.chars_have_no (by decide) rfl
  have words : groupTexts ("ffff:".toList ++ ip.chars) = ["ffff".toList, ip.chars] := by
    have parts : pieces (· == ':') ("ffff".toList ++ ':' :: ip.chars) =
        ["ffff".toList, ip.chars] := by
      rw [pieces_append (by simp) rfl, pieces_of_whole whole]
    exact parts
  have ends : readTail (groupTexts ("ffff:".toList ++ ip.chars)) =
      some [0xFFFF, ip.high, ip.low] := by
    rw [words, readTail, readTail, Ipv4.read_of_chars]
    · rfl
    · exact fun none => nomatch none
  exact @read_around_gap [] _ _ ends (show 0 + 3 < 8 by decide)

theorem read_of_chars (ip : Ipv6) : readChars ip.chars = some ip := by
  unfold chars
  split
  · rename_i high low groups
    obtain ⟨sameHigh, sameLow⟩ := Ipv4.words_of_words high low
    rw [read_of_dotted, sameHigh, sameLow, ← groups]
    exact dif_pos ip.size
  · exact read_of_gapped ip

section Alphabet

variable {separates : Char → Bool} (digit : ∀ d < 16, separates (hexChar d) = false)
  (colon : separates ':' = false)
include digit colon

theorem group_chars_have_no (groups : List UInt16) :
    ∀ c ∈ groupChars groups, separates c = false := by
  cases groups with
  | nil => exact fun _ member => nomatch member
  | cons g rest =>
    induction rest generalizing g with
    | nil =>
      rw [group_chars_singleton]
      exact hex_digits_have_no digit
    | cons next rest ih =>
      rw [group_chars_cons]
      exact List.forall_mem_append.mpr
        ⟨hex_digits_have_no digit, List.forall_mem_cons.mpr ⟨colon, ih next⟩⟩

theorem gapped_has_no (groups : List UInt16) : ∀ c ∈ gapped groups, separates c = false := by
  have plain (part : List UInt16) := group_chars_have_no digit colon part
  unfold gapped
  dsimp only
  split
  · exact List.forall_mem_append.mpr ⟨plain _,
      List.forall_mem_cons.mpr ⟨colon, List.forall_mem_cons.mpr ⟨colon, plain _⟩⟩⟩
  · exact plain _

theorem chars_have_no (point : separates '.' = false) (ip : Ipv6) :
    ∀ c ∈ ip.chars, separates c = false := by
  have small (d : Nat) (h : d < 10) : separates (digitChar d) = false := by
    simpa [hexChar, digitChar, h] using digit d (by omega)
  have letter : separates 'f' = false := digit 15 (by decide)
  unfold chars
  split
  · refine List.forall_mem_append.mpr ⟨?_, Ipv4.chars_have_no _ small point⟩
    simp [colon, letter]
  · exact gapped_has_no digit colon _

end Alphabet

theorem chars_read_as_v4 (ip : Ipv6) : Ipv4.readChars ip.chars = none := by
  unfold chars
  split
  · rename_i high low _
    have start : ∀ c ∈ "::ffff:".toList ++ digits (Ipv4.ofWords high low).a.toNat,
        (c == '.') = false :=
      List.forall_mem_append.mpr ⟨by simp, digits_have_no (by decide)⟩
    have long : 3 < ("::ffff:".toList ++ digits (Ipv4.ofWords high low).a.toNat).length := by
      rw [List.length_append]
      exact Nat.lt_add_right _ (by decide)
    unfold Ipv4.chars
    simp only [List.append_assoc, List.cons_append]
    rw [← List.append_assoc]
    exact Ipv4.read_long_start start long
  · exact Ipv4.read_undotted (gapped_has_no (by decide) rfl _)

end Ipv6

theorem Ip.read_of_text (ip : Ip) : read ip.text = some ip := by
  unfold read text
  rw [String.toList_ofList]
  unfold readChars
  cases ip with
  | v4 ip => rw [chars, Ipv4.read_of_chars]
  | v6 ip =>
    rw [chars, Ipv6.chars_read_as_v4, Ipv6.read_of_chars]
    rfl

theorem Protocol.of_name (p : Protocol) : ofName? p.name = some p := by
  cases p <;> rfl

theorem PublicKey.read_of_text (key : PublicKey) : read key.text = .ok key := by
  unfold read text
  rw [String.toList_append, String.toList_ofList, drop_lead_append]
  dsimp only
  rw [Hex.decode_of_encoded]
  exact dif_pos key.size

end Net
end HostHealth
