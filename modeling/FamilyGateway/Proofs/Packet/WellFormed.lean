import FamilyGateway.Proofs.Checksum.Verification
import FamilyGateway.Proofs.Packet.View

/-!
# Well-formed packets

A packet is built from pieces that have to fit together: the lengths in the headers
count what stands behind them, an IPv6 header announces a Fragment header exactly if
there is one, and the checksum of an IPv4 header makes its words fold to all ones
(`OutboundPacket.WellFormed`). A receiver refuses a packet of which this is not true.

Lengths are written into sixteen bits, so an IPv4 packet comes out right if header and
payload together stay below 65536 (`OutboundPacket.wellFormed_ipv4`), and an IPv6 packet
if its headers announce its payload (`OutboundPacket.wellFormed_ipv6`). The checksum is
right whatever the other fields are (`Ipv4Header.verifiesAlone_emit`), since a header
with a version in it never sums to zero.
-/

set_option autoImplicit false

namespace FamilyGateway

/-! ## Checksums of headers -/

/-- A message verifies once its checksum field holds the complement of the sum of what stands on
either side of it. -/
theorem Checksum.verifiesAlone_filled {front back : Bytes} (even : front.length % 2 = 0)
    (short : front.length + back.length ≤ 131072) (positive : 0 < total front) :
    verifiesAlone (front ++ (Wire.bytes16 (ofSum (combine (wordSum front) (wordSum back))) ++
      back)) = true := by
  have residue := combine_mod (wordSum front) (wordSum back)
  have folded := fold_mod (combine (wordSum front) (wordSum back))
  have bound := (fold (combine (wordSum front) (wordSum back))).toNat_lt
  rw [toNat_wordSum front (by omega), toNat_wordSum back (by omega)] at residue
  have size : (front ++ (Wire.bytes16 (ofSum (combine (wordSum front) (wordSum back))) ++
      back)).length ≤ 131074 := by
    simp only [List.length_append, Wire.length_bytes16]
    omega
  rw [verifiesAlone_iff size, total_append _ _ even,
    total_append (Wire.bytes16 _) _ (by rw [Wire.length_bytes16]), total_bytes16, toNat_ofSum]
  omega

namespace Ipv4Fields

/-- The checksum stands in the middle of a header. -/
theorem encode_checksum (fields : Ipv4Fields) (checksum : UInt16) :
    { fields with checksum := checksum }.encode =
      fields.encode.take 10 ++ (Wire.bytes16 checksum ++ fields.encode.drop 12) :=
  rfl

/-- The checksum of a header without options is made of all words but its own. -/
theorem ipv4Header_encode {fields : Ipv4Fields} (length : fields.headerLength = 20) :
    Checksum.ipv4Header fields.encode =
      Checksum.ofSum (Checksum.combine (Checksum.wordSum (fields.encode.take 10))
        (Checksum.wordSum (fields.encode.drop 12))) := by
  have covered : fields.encode.take fields.headerLength = fields.encode :=
    List.take_of_length_le (Nat.le_of_eq (fields.length_encode.trans length.symm))
  show (if 12 ≤ (fields.encode.take fields.headerLength).length then
      Checksum.ofSum (Checksum.combine
        (Checksum.wordSum ((fields.encode.take fields.headerLength).take 10))
        (Checksum.wordSum ((fields.encode.take fields.headerLength).drop 12)))
    else Checksum.ofSum (Checksum.wordSum ((fields.encode.take fields.headerLength).take 10))) = _
  rw [covered, length_encode, if_pos (by decide)]

end Ipv4Fields

namespace Ipv4Header

/-- Every header that is emitted verifies. -/
theorem verifiesAlone_emit (header : Ipv4Header) (payloadLength : Nat) :
    Checksum.verifiesAlone (header.emit payloadLength) = true := by
  have length : (header.blank payloadLength).headerLength = 20 := (Ipv4Fields.of_first rfl).2
  rw [emit, fields, Ipv4Fields.encode_checksum, Ipv4Fields.ipv4Header_encode length]
  refine Checksum.verifiesAlone_filled ?_ ?_ ?_
  · rw [List.length_take, Ipv4Fields.length_encode]
    rfl
  · rw [List.length_take, List.length_drop, Ipv4Fields.length_encode]
    decide
  · -- The first word of a header is not zero.
    show 0 < (0x45 : UInt8).toNat * 256 + _ + _
    exact Nat.lt_of_lt_of_le (by decide) (Nat.le_add_right_of_le (Nat.le_add_right _ _))

end Ipv4Header

/-! ## Packets -/

namespace OutboundPacket

/-- What an IPv4 packet with these fields owes to its receiver. -/
structure Ipv4WellFormed (packet : OutboundPacket) (fields : Ipv4Fields) : Prop where
  header : packet.header = fields.encode
  size : packet.header.length = 20
  version : fields.version = 4
  headerLength : fields.headerLength = 20
  unfragmented : packet.fragment = none
  total : fields.totalLength.toNat = packet.bytes.length
  verifies : Checksum.verifiesAlone packet.header = true

/-- What an IPv6 packet with these fields owes to its receiver. -/
structure Ipv6WellFormed (packet : OutboundPacket) (fields : Ipv6Fields) : Prop where
  header : packet.header = fields.encode
  size : packet.header.length = 40
  version : fields.version = 6
  declared : packet.bytes.length = packet.header.length + fields.payloadLength.toNat
  announces : fields.nextHeader = fragmentNumber ↔ packet.fragment.isSome
  readable : ∃ datagram, Ipv6Datagram.read packet.bytes = .ok datagram

/-- The pieces of a packet fit together. -/
def WellFormed (packet : OutboundPacket) : Prop :=
  match packet.family with
  | .inet => ∃ fields, packet.Ipv4WellFormed fields
  | .inet6 => ∃ fields, packet.Ipv6WellFormed fields

/-- An IPv4 packet is well formed if its length can be written. -/
theorem wellFormed_ipv4 (header : Ipv4Header) {payload : Bytes}
    (fits : 20 + payload.length < 65536) :
    WellFormed ⟨.inet, header.emit payload.length, none, payload⟩ := by
  obtain ⟨version, headerLength⟩ : (header.fields payload.length).version = 4 ∧
      (header.fields payload.length).headerLength = 20 := Ipv4Fields.of_first rfl
  refine ⟨header.fields payload.length, rfl, rfl, version, headerLength, rfl, ?_,
    header.verifiesAlone_emit _⟩
  rw [length_bytes]
  exact Nat.mod_eq_of_lt fits

/-- An IPv6 packet is well formed if its headers announce its payload. -/
theorem wellFormed_ipv6 {fields : Ipv6Fields} {fragment : Option FragmentHeader}
    {protocol : UpperProtocol} {payload : Bytes} (version : fields.version = 6)
    (announced : Ipv6Datagram.Announced fields protocol payload fragment) :
    WellFormed ⟨.inet6, fields.encode, fragment.map FragmentHeader.encode, payload⟩ := by
  cases announced with
  | plain next declared =>
      have named : fields.nextHeader ≠ fragmentNumber := by
        rw [next]
        exact Ipv6Datagram.number_ne_fragmentNumber protocol
      obtain ⟨datagram, read, -⟩ := PacketView.read?_inet6
        (view?_plain fields protocol payload version declared next)
      refine ⟨fields, rfl, rfl, version, ?_, ⟨fun same => absurd same named, nofun⟩,
        datagram, read⟩
      rw [length_bytes, declared]
      rfl
  | fragment fragment next inner aligned declared =>
      obtain ⟨datagram, read, -⟩ := PacketView.read?_inet6
        (view?_fragment fields fragment protocol payload version declared next inner aligned)
      refine ⟨fields, rfl, rfl, version, ?_, ⟨fun _ => rfl, fun _ => next⟩, datagram, read⟩
      rw [length_bytes, declared]
      show 40 + 8 + payload.length = 40 + (8 + payload.length)
      omega

end OutboundPacket

end FamilyGateway
