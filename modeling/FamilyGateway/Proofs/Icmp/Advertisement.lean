import FamilyGateway.Icmp.Notice
import FamilyGateway.Proofs.Icmp.Crossing
import FamilyGateway.Proofs.Packet.Declared
import FamilyGateway.Proofs.PathMtu.Floor

/-!
# What notices advertise and how long they are

A sender reads one number off a notice, the size that it should not exceed
(`OutboundPacket.advertised?`). It is the number that the notice was made for, raised to
the floor of the family (`advertised?_fragmentationNeeded`, `advertised?_packetTooBig`).

Notices are short: a packet-too-big notice stays within the smallest IPv6 MTU however long
the packet is, and a fragmentation-needed notice about a packet without options has at
most fifty-six bytes.
-/

set_option autoImplicit false

namespace FamilyGateway

/-- The size that a notice advertises to the sender it is for. -/
def OutboundPacket.advertised? (notice : OutboundPacket) : Option Nat :=
  match IcmpMessage.read notice.payload with
  | .error _ => none
  | .ok message =>
    match notice.family with
    | .inet =>
      if message.type = Icmp.unreachable ∧ message.code = Icmp.fragmentationNeeded then
        some (Wire.lower message.parameter).toNat
      else none
    | .inet6 => if message.type = Icmp.packetTooBig then some message.parameter.toNat else none

namespace Icmp

/-! ## The advertised size -/

/-- The size that a fragmentation-needed message names. -/
theorem toNat_sizeIpv4 (mtu : UInt16) :
    (Wire.lower (max mtu (PathMtu.floor .inet)).toUInt32).toNat = max mtu.toNat 68 := by
  have bound := (max mtu (PathMtu.floor .inet)).toNat_lt
  rw [Wire.toNat_lower, UInt16.toNat_toUInt32, Nat.mod_eq_of_lt bound, PathMtu.toNat_max]
  rfl

/-- The size that a packet-too-big message names. -/
theorem toNat_sizeIpv6 (mtu : UInt32) :
    (max mtu (PathMtu.floor .inet6).toUInt32).toNat = max mtu.toNat 1280 := by
  have larger : max mtu (PathMtu.floor .inet6).toUInt32 = if mtu ≤ 1280 then 1280 else mtu := rfl
  rw [larger, Nat.max_def]
  simp only [UInt32.le_iff_toNat_le, UInt32.reduceToNat]
  split <;> rfl

theorem advertised?_fragmentationNeeded (packet : Bytes) (source destination : Ipv4Address)
    (mtu : UInt16) :
    (fragmentationNeededNotice packet source destination mtu).advertised? =
      some (max mtu.toNat 68) := by
  rw [← toNat_sizeIpv4]
  simp only [OutboundPacket.advertised?, fragmentationNeededNotice, IcmpMessage.read_encode]
  rfl

theorem advertised?_packetTooBig (packet : Bytes) (source destination : Ipv6Address)
    (mtu : UInt32) :
    (packetTooBigNotice packet source destination mtu).advertised? =
      some (max mtu.toNat 1280) := by
  rw [← toNat_sizeIpv6]
  simp only [OutboundPacket.advertised?, packetTooBigNotice, IcmpMessage.read_encode]
  rfl

/-! ## Lengths -/

/-- Whatever the header length says, little is quoted. -/
theorem length_ipv4Quote_le_max (packet : Bytes) : (ipv4Quote packet).length ≤ 68 := by
  cases packet with
  | nil => exact Nat.zero_le _
  | cons first rest =>
      have low : (first % 16).toNat ≤ 15 :=
        Nat.le_of_lt_succ (Nat.mod_lt first.toNat (by decide))
      have taken := List.length_take_le ((first % 16).toNat * 4 + quotedPayload) (first :: rest)
      have extra : quotedPayload = 8 := rfl
      rw [ipv4Quote]
      omega

theorem length_fragmentationNeededMessage_le (packet : Bytes) (mtu : UInt16) :
    (fragmentationNeededMessage packet mtu).encode.length ≤ 76 := by
  have quoted := length_ipv4Quote_le_max packet
  rw [IcmpMessage.length_encode]
  show 8 + (ipv4Quote packet).length ≤ 76
  omega

theorem length_packetTooBigMessage_le (packet : Bytes) (source destination : Ipv6Address)
    (mtu : UInt32) : (packetTooBigMessage packet source destination mtu).encode.length ≤ 1240 := by
  rw [IcmpMessage.length_encode]
  exact Nat.add_le_add_left (List.length_take_le ipv6QuoteRoom packet) 8

theorem length_fragmentationNeededNotice (packet : Bytes) (source destination : Ipv4Address)
    (mtu : UInt16) :
    (fragmentationNeededNotice packet source destination mtu).bytes.length =
      28 + (ipv4Quote packet).length := by
  rw [OutboundPacket.length_bytes]
  show 20 + 0 + (fragmentationNeededMessage packet mtu).encode.length = _
  rw [IcmpMessage.length_encode, ← Nat.add_assoc]
  rfl

/-- A packet-too-big notice quotes as much of the packet as there is room for. -/
theorem length_packetTooBigNotice (packet : Bytes) (source destination : Ipv6Address)
    (mtu : UInt32) :
    (packetTooBigNotice packet source destination mtu).bytes.length =
      48 + min ipv6QuoteRoom packet.length := by
  rw [OutboundPacket.length_bytes]
  show 40 + 0 + (packetTooBigMessage packet source destination mtu).encode.length = _
  rw [IcmpMessage.length_encode, ← Nat.add_assoc, ← List.length_take]
  rfl

/-- What is quoted of a packet that begins with a header of fixed length. -/
theorem ipv4Quote_encode (fields : Ipv4Fields) (payload : Bytes) :
    ipv4Quote (fields.encode ++ payload) =
      (fields.encode ++ payload).take (fields.headerLength + quotedPayload) := rfl

/-- Of a packet without options the header and eight bytes are quoted at most. -/
theorem length_ipv4Quote_le {packet : Bytes} {datagram : Ipv4Datagram}
    (read : Ipv4Datagram.read packet = .ok datagram) :
    (ipv4Quote (packet.take datagram.fields.totalLength.toNat)).length ≤ 28 := by
  have sound := Ipv4Datagram.sound read
  obtain ⟨rest, header⟩ := Ipv4Datagram.fields_of_read read
  obtain rfl := Ipv4Fields.eq_of_read? header
  have covered : datagram.fields.encode.length ≤ datagram.fields.totalLength.toNat := by
    rw [Ipv4Fields.length_encode, sound.declared]
    exact Nat.le_add_right _ _
  rw [List.take_append, List.take_of_length_le covered, ipv4Quote_encode, sound.headerLength]
  exact List.length_take_le _ _

end Icmp

end FamilyGateway
