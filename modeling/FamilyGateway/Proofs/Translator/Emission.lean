import FamilyGateway.Proofs.Packet.WellFormed
import FamilyGateway.Proofs.Translator.PathLimit

/-!
# Every packet that is sent is well formed

Packets are built in five places: with a new header of either family around a payload or
a piece of one, with the header that was read around a payload within IPv6, and as a
notice of either kind. In each of them the lengths that are written count what is there,
because a payload that crosses ends below 65536, pieces and quotes are shorter than a
packet may be, and a payload within IPv6 keeps its length.

So whatever arrives, and whatever happened before, everything that is sent is well formed
(`Translator.emitted_well_formed`), the notices in the family of the packet that they are
about and the packets behind them in the family to which its way leads.
-/

set_option autoImplicit false

namespace FamilyGateway

open OutboundPacket (view?)

/-! ## Packets of a crossing -/

namespace FourToSix

variable (crossing : FourToSix)

theorem wellFormed_whole (fits : crossing.payload.length < 65536) : crossing.whole.WellFormed :=
  OutboundPacket.wellFormed_ipv6 (Ipv6Header.version_fields _ _)
    (.plain rfl (Nat.mod_eq_of_lt fits))

theorem wellFormed_fragment (identification : UInt32) {piece : Piece}
    (aligned : (crossing.offset.toNat + piece.start) % 8 = 0)
    (within : crossing.offset.toNat + piece.start < 65536)
    (fits : 8 + piece.data.length < 65536) :
    (crossing.fragment identification piece).WellFormed := by
  have offset := toNat_offset_add rfl within
  refine OutboundPacket.wellFormed_ipv6 (Ipv6Header.version_fields _ _)
    (.fragment _ rfl rfl ?_ (Nat.mod_eq_of_lt fits))
  rw [offset]
  exact aligned

/-- Packets to IPv6 are well formed if their datagram ends below 65536. -/
theorem wellFormed_packets (aligned : crossing.offset.toNat % 8 = 0)
    (fits : crossing.offset.toNat + crossing.payload.length ≤ 65535) (mtu : UInt16)
    (drawn : UInt32) : ∀ output ∈ crossing.packets mtu drawn, output.WellFormed := by
  have bound := mtu.toNat_lt
  have space : room mtu = mtu.toNat - 48 := rfl
  intro output member
  unfold packets isSplit at member
  split at member
  next =>
    obtain ⟨piece, cut, rfl⟩ := List.mem_map.mp member
    obtain ⟨_, start, inside, short⟩ := Piece.cut_bounds _ _ _ piece cut
    simp only [Piece.size, space] at short
    exact crossing.wellFormed_fragment _ (by omega) (by omega) (by omega)
  next split =>
    have short : crossing.payload.length ≤ room mtu :=
      Nat.le_of_not_lt fun larger => split (decide_eq_true larger)
    split at member
    next =>
      rw [List.mem_singleton.mp member]
      refine crossing.wellFormed_fragment _ aligned ?_ ?_
      · show crossing.offset.toNat + 0 < 65536
        omega
      · show 8 + crossing.payload.length < 65536
        omega
    next =>
      rw [List.mem_singleton.mp member]
      exact crossing.wellFormed_whole (by omega)

end FourToSix

namespace SixToFour

variable (crossing : SixToFour)

/-- Packets to IPv4 are well formed whatever their datagram is. -/
theorem wellFormed_packets (mtu : UInt16) (drawn : UInt32) :
    ∀ output ∈ crossing.packets mtu drawn, output.WellFormed := by
  have bound := mtu.toNat_lt
  have space : room mtu = mtu.toNat - 20 := rfl
  intro output member
  unfold packets isSplit at member
  split at member
  next =>
    obtain ⟨piece, cut, rfl⟩ := List.mem_map.mp member
    obtain ⟨_, _, _, short⟩ := Piece.cut_bounds _ _ _ piece cut
    simp only [Piece.size, space] at short
    exact OutboundPacket.wellFormed_ipv4 _ (by omega)
  next split =>
    have short : 20 + crossing.payload.length ≤ mtu.toNat :=
      Nat.le_of_not_lt fun larger => split (decide_eq_true larger)
    rw [List.mem_singleton.mp member]
    exact OutboundPacket.wellFormed_ipv4 _ (by omega)

end SixToFour

/-- A packet that stays in IPv6 keeps a header that announces its payload. -/
theorem SixToSix.wellFormed_packet {table : MappingTable} {datagram : Ipv6Datagram}
    {outbound : OutboundPacket} (sound : datagram.Sound)
    (ok : packet table datagram = .ok outbound) : outbound.WellFormed := by
  obtain ⟨source, destination, payload, _, converted, rfl⟩ := packet_eq ok
  have announced := announced_readdressed sound source destination
    (PacketView.length_convert rfl rfl converted)
  exact OutboundPacket.wellFormed_ipv6 sound.version announced

/-! ## Notices -/

namespace Icmp

theorem wellFormed_fragmentationNeededNotice (packet : Bytes) (source destination : Ipv4Address)
    (mtu : UInt16) : (fragmentationNeededNotice packet source destination mtu).WellFormed := by
  have short := length_fragmentationNeededMessage_le packet mtu
  refine OutboundPacket.wellFormed_ipv4 _ ?_
  show 20 + (fragmentationNeededMessage packet mtu).encode.length < 65536
  omega

theorem wellFormed_packetTooBigNotice (packet : Bytes) (source destination : Ipv6Address)
    (mtu : UInt32) : (packetTooBigNotice packet source destination mtu).WellFormed := by
  have short := length_packetTooBigMessage_le packet source destination mtu
  exact OutboundPacket.wellFormed_ipv6 (Ipv6Header.version_fields _ _)
    (show Ipv6Datagram.Announced _ .icmp _ none from .plain rfl (Nat.mod_eq_of_lt (by omega)))

end Icmp

/-! ## What is sent -/

namespace Translator

variable {translator : Translator} {surroundings : Surroundings}

/-- What a plan sends is well formed. -/
theorem wellFormed_carryOut {family : Family} {packet : Bytes} {plan : Plan}
    (planned : Plan.ofPacket translator.table family packet = .ok plan) :
    ∀ output ∈ (translator.carryOut surroundings plan).packets, output.WellFormed := by
  obtain ⟨view, read⟩ := Plan.exists_view planned
  have aligned := PacketView.offset_aligned read
  have suits := Plan.suits read planned
  cases Plan.made planned with
  | @absorbIpv4 _ _ report => cases report <;> exact List.forall_mem_nil _
  | absorbUnquoted => exact List.forall_mem_nil _
  | absorbIpv6 => exact List.forall_mem_nil _
  | @toIpv6 _ _ _ crossing =>
      rw [packets_carryOut_toIpv6]
      refine List.forall_mem_append.mpr ⟨?_, ?_⟩
      · exact translator.forall_noticesIpv4 surroundings
          (Icmp.wellFormed_fragmentationNeededNotice _ · _) crossing
      · cases suits with
        | toIpv6 _ _ _ _ carries fits =>
            rw [← carries.offset] at aligned fits
            exact crossing.wellFormed_packets aligned fits _ _
  | @toIpv4 _ _ crossing =>
      rw [packets_carryOut_toIpv4]
      refine List.forall_mem_append.mpr ⟨?_, ?_⟩
      · exact translator.forall_noticesIpv6 surroundings
          (Icmp.wellFormed_packetTooBigNotice _ · _) crossing
      · exact crossing.wellFormed_packets _ _
  | withinIpv6 readable _ _ becomes =>
      rw [carryOut, List.forall_mem_singleton]
      exact SixToSix.wellFormed_packet (Ipv6Datagram.sound readable) becomes

/-- What is sent for a packet on its way: notices to its sender in the family that it came in, and
behind them packets in the family of its new endpoints. -/
structure Emits (translator : Translator) (view : PacketView) (way : Way) (after : Endpoints)
    (notices carried : List OutboundPacket) : Prop where
  leads : translator.table.Leads way view.endpoints after
  notices : ∀ notice ∈ notices, notice.family = way.origin ∧
    ∃ size, notice.advertised? = some size
  carried : ∀ output ∈ carried, output.family = way.target ∧
    ∃ shown, view? output = some shown ∧ shown.endpoints = after

theorem Sends.emits {packet : Bytes} {view : PacketView} {next : Translator} {way : Way}
    {after : Endpoints} {notices carried : List OutboundPacket}
    (sends : translator.Sends surroundings packet view next way after notices carried)
    (aligned : view.offset % 8 = 0) : translator.Emits view way after notices carried := by
  refine ⟨sends.leads, fun notice member => ?_, fun output member => ?_⟩
  · obtain ⟨family, advertised, _⟩ := sends.shortNotices notice member
    exact ⟨family, advertised⟩
  · obtain ⟨shown, seen, rfl⟩ := sends.addressed aligned output member
    exact ⟨(PacketView.families seen).1.symm.trans sends.leads.target.1, shown, seen, rfl⟩

/-- **Every packet that is sent is well formed**, and of the family that its part in the treatment
asks for. -/
theorem emitted_well_formed (translator : Translator) (surroundings : Surroundings)
    (family : Family) (packet : Bytes) {packets : List OutboundPacket}
    (accepted : (translator.step surroundings family packet).result = .ok packets) :
    (∀ output ∈ packets, output.WellFormed) ∧
      (packets ≠ [] → ∃ view way after notices carried,
        PacketView.read? family packet = some view ∧ packets = notices ++ carried ∧
          translator.Emits view way after notices carried) := by
  constructor
  · obtain ⟨plan, planned, rfl, -⟩ := exists_plan_of_accepted accepted
    exact wellFormed_carryOut planned
  · intro forwarded
    obtain ⟨view, read⟩ := exists_view_of_accepted accepted
    obtain ⟨way, after, notices, carried, split, sends⟩ := exists_sends read accepted forwarded
    exact ⟨view, way, after, notices, carried, read, split,
      sends.emits (PacketView.offset_aligned read)⟩

theorem emitted_well_formed_cut :
    ∃ packets view after notices carried,
      (Sample.translator.step Sample.answering .inet6
        (Sample.wholePacket (List.replicate 56 0))).result = .ok packets ∧
      (∀ output ∈ packets, output.WellFormed) ∧ packets = notices ++ carried ∧
      Sample.translator.Emits view .sixToFour after notices carried := by
  obtain ⟨view, packets, read, _, _, accepted, forwards⟩ := Sample.forwards_wholePacket
  obtain ⟨formed, emitted⟩ := emitted_well_formed Sample.translator Sample.answering .inet6
    (Sample.wholePacket (List.replicate 56 0)) accepted
  obtain ⟨other, way, after, notices, carried, found, split, emits⟩ := emitted forwards.ne_nil
  cases read.symm.trans found
  obtain ⟨rfl, rfl⟩ := forwards.leads.unique emits.leads
  exact ⟨packets, view, _, notices, carried, accepted, formed, split, emits⟩

end Translator

end FamilyGateway
