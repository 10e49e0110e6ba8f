import HostHealth.Probe.Reach
import HostHealth.Probe.Run
import HostHealth.Proofs.HostPorts
import HostHealth.Proofs.WrittenAddresses

/- An internet address with a port, as a dial target. The host that is resolved and the endpoint that
   is dialed are told from its text by two readers, each with a rule of its own for brackets and
   colons, and still they never differ about it. -/
namespace HostHealth

open Text

namespace Net

namespace Ip

theorem text_ne_empty (ip : Ip) : ip.text ≠ "" := by
  have nothing : read "" = none := by decide
  have own := read_of_text ip
  intro empty
  rw [empty, nothing] at own
  cases own

theorem colon_in_v6 (ip : Ipv6) : ':' ∈ ip.chars := by
  unfold Ipv6.chars
  split
  · simp
  · unfold Ipv6.gapped
    dsimp only
    split
    · simp
    · have size := ip.size
      match groups : ip.groups with
      | [] | [_] => simp [groups] at size
      | g :: next :: rest => simp [Ipv6.group_chars_cons]

theorem no_colon_in_v4 (ip : Ipv4) : ':' ∉ ip.chars :=
  absent_of_no_char (ip.chars_have_no (by decide) rfl)

theorem no_bracket_in_v4 (ip : Ipv4) : '[' ∉ ip.chars :=
  absent_of_no_char (ip.chars_have_no (by decide) rfl)

theorem text_is_clear (ip : Ip) :
    ':' ∈ ip.text.toList ∨ ¬ HostPort.InBrackets ip.text.toList := by
  rw [text, String.toList_ofList]
  cases ip with
  | v4 ip =>
    right
    rintro ⟨inside, brackets⟩
    have opens : '[' ∈ ip.chars := by
      rw [show ip.chars = _ from brackets]
      exact List.mem_cons_self
    exact no_bracket_in_v4 ip opens
  | v6 ip => exact .inl (colon_in_v6 ip)

end Ip

namespace SocketAddr

theorem read_port_of_digits (n : UInt16) : readPort (digits n.toNat) = some n := by
  rw [readPort, read_below_of_digits n.toNat_lt, Option.map_some, UInt16.ofNat_toNat]

theorem read_of_v4 (ip : Ipv4) (n : UInt16) :
    readChars (ip.chars ++ ':' :: digits n.toNat) = some (.v4 ip n) := by
  unfold readChars
  split
  · rename_i rest same
    have bracket : '[' ∈ ip.chars ++ ':' :: digits n.toNat := by
      rw [same]
      exact List.mem_cons_self
    have none_in_digits : '[' ∉ digits n.toNat := absent_of_no_char (digits_have_no (by decide))
    simp [Ip.no_bracket_in_v4 ip, none_in_digits] at bracket
  · rw [cut_first_append (Ip.no_colon_in_v4 ip)]
    dsimp only
    rw [Ipv4.read_of_chars, read_port_of_digits]
    rfl

theorem read_of_v6 (ip : Ipv6) (n : UInt16) :
    readChars ('[' :: ip.chars ++ [']'] ++ ':' :: digits n.toNat) = some (.v6 ip 0 n) := by
  have open_end : ']' ∉ ip.chars :=
    absent_of_no_char (Ipv6.chars_have_no (by decide) rfl rfl ip)
  have no_scope : '%' ∉ ip.chars :=
    absent_of_no_char (Ipv6.chars_have_no (by decide) rfl rfl ip)
  simp only [List.cons_append, List.append_assoc, List.nil_append, readChars]
  rw [cut_first_append open_end]
  simp only
  rw [readV6, cut_first_none_iff.mpr no_scope]
  dsimp only
  rw [Ipv6.read_of_chars, read_port_of_digits]
  rfl

theorem literal_of_joined (ip : Ip) (n : UInt16) :
    literal? (HostPort.join ip.text (decimal n.toNat)) = some (withPort n ip) := by
  have port : (decimal n.toNat).toList = digits n.toNat := String.toList_ofList
  unfold literal? read
  cases ip with
  | v4 ip =>
    have own : (Ip.v4 ip).text.toList = ip.chars := String.toList_ofList
    have whole : ':' ∉ (Ip.v4 ip).text.toList := by
      rw [own]
      exact Ip.no_colon_in_v4 ip
    rw [HostPort.join_of_whole whole, own, port, read_of_v4]
    rfl
  | v6 ip =>
    have own : (Ip.v6 ip).text.toList = ip.chars := String.toList_ofList
    have parted : ':' ∈ (Ip.v6 ip).text.toList := by
      rw [own]
      exact Ip.colon_in_v6 ip
    rw [HostPort.join_of_parted parted, own, port, read_of_v6]
    rfl

end SocketAddr

theorem HostPort.read_of_joined (ip : Ip) (n : UInt16) :
    read (join ip.text (decimal n.toNat)) = .ok ⟨ip.text, n⟩ := by
  have port : IsPort (decimal n.toNat).toList n := by
    rw [decimal, String.toList_ofList]
    exact digits_are_port n
  exact read_chars_ok_iff.mpr (spelled_by_join ip.text_ne_empty port ip.text_is_clear)

end Net

namespace Probe

open Net

/-- An address with a port is one endpoint to every stage of a probe: its text is split into the two,
    the host in it is the address itself, for which nobody is asked, and a dial of the text leads to
    that address and port and nowhere else. So a probe goes on to dial what its report shows. -/
theorem literal_endpoint_is_one (ip : Ip) (n : UInt16) :
    let target := HostPort.join ip.text (decimal n.toNat)
    HostPort.read target = .ok ⟨ip.text, n⟩ ∧
      Ip.read ip.text = some ip ∧
      (∀ (r : Dns.Resolver) names token start,
        r.resolve names token ip.text start = ⟨[], .returned start (.ok [ip])⟩ ∧
          r.lookup names token ip.text start = ⟨[], .returned start (.ok [ip])⟩) ∧
      Reach.addresses target = .ok [SocketAddr.withPort n ip] ∧
      ∀ setup key protocol client,
        let address : NetAddress := ⟨target, protocol⟩
        run setup key address client = dial setup key address client
          { ProbeReport.untouched address with resolvedAddresses := [ip] } := by
  intro target
  have split : HostPort.read target = .ok ⟨ip.text, n⟩ := HostPort.read_of_joined ip n
  have literal : Ip.read ip.text = some ip := Ip.read_of_text ip
  have resolved (r : Dns.Resolver) names token :
      r.resolve names token ip.text = (return .ok [ip]) := by
    rw [Dns.Resolver.resolve, literal]
  refine ⟨split, literal, ?_, ?_, ?_⟩
  · intro r names token start
    rw [resolved, Dns.Resolver.lookup, literal]
    exact ⟨rfl, rfl⟩
  · rw [Reach.addresses, SocketAddr.literal_of_joined]
  · intro setup key protocol client address
    rw [run, split]
    dsimp only
    rw [Setup.resolve, resolved]
    rfl

end Probe
end HostHealth
