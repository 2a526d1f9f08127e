import FamilyGateway.Proofs.Translator.Acceptance

/-!
# Headers carry over

A header that is sent across the families is written anew, and each of its fields is either
fixed, or taken over from the packet that arrived, or looked up in the table
(`MappingTable.ShowsInIpv6`, `MappingTable.ShowsInIpv4`). Lengths, offsets and
identifications apart, all pieces of a payload have the same header, so this is true of every
fragment as it is of a packet that is left whole.

A packet is sent to IPv6 under an address that the table holds, and comes from IPv6 under one
that it holds. So notices apart nothing ever leaves under another IPv4 address, and nothing
from the IPv4 side is sent to another IPv6 address (`Translator.headers_carry_over`).
-/

set_option autoImplicit false

namespace FamilyGateway

open OutboundPacket (view?)

/-! ## Traffic class and flow label -/

namespace Ipv6Fields

/-- The eight bits of traffic class. -/
def trafficClass (fields : Ipv6Fields) : UInt8 := (fields.versionClassFlow / 0x100000).toUInt8

/-- The twenty bits of flow label. -/
def flowLabel (fields : Ipv6Fields) : UInt32 := fields.versionClassFlow % 0x100000

/-- The first word of a header is made up of version, traffic class and flow label. -/
theorem toNat_versionClassFlow (fields : Ipv6Fields) :
    fields.versionClassFlow.toNat =
      fields.version.toNat * 0x10000000 + fields.trafficClass.toNat * 0x100000 +
        fields.flowLabel.toNat := by
  have bound := fields.versionClassFlow.toNat_lt
  simp only [version, trafficClass, flowLabel, UInt32.toNat_toUInt8, UInt32.toNat_div,
    UInt32.toNat_mod, UInt32.reduceToNat]
  omega

end Ipv6Fields

/-- A header that is emitted asks for nothing special. -/
theorem Ipv6Header.unmarked_fields (header : Ipv6Header) (payloadLength : Nat) :
    (header.fields payloadLength).trafficClass = 0 ∧
      (header.fields payloadLength).flowLabel = 0 := by
  have fixed : (header.fields payloadLength).versionClassFlow = 0x60000000 := rfl
  rw [Ipv6Fields.trafficClass, Ipv6Fields.flowLabel, fixed]
  decide

/-! ## The header in front of a packet -/

namespace OutboundPacket

variable {output : OutboundPacket}

theorem exists_bytes_eq (output : OutboundPacket) : ∃ rest, output.bytes = output.header ++ rest :=
  ⟨(output.fragment.toList ++ [output.payload]).flatten, by
    simp only [bytes, segments, List.append_assoc, List.flatten_append, List.flatten_singleton]⟩

/-- A receiver reads the header that was written. -/
theorem fields_of_ipv6 {fields : Ipv6Fields} {sent : Ipv6Datagram}
    (header : output.header = fields.encode) (read : Ipv6Datagram.read output.bytes = .ok sent) :
    sent.fields = fields := by
  obtain ⟨rest, bytes⟩ := output.exists_bytes_eq
  obtain ⟨others, found⟩ := Ipv6Datagram.fields_of_read read
  rw [bytes, header, Ipv6Fields.read?_encode] at found
  cases found
  rfl

/-- A receiver reads the header that was written. -/
theorem fields_of_ipv4 {fields : Ipv4Fields} {sent : Ipv4Datagram}
    (header : output.header = fields.encode) (read : Ipv4Datagram.read output.bytes = .ok sent) :
    sent.fields = fields := by
  obtain ⟨rest, bytes⟩ := output.exists_bytes_eq
  obtain ⟨others, found⟩ := Ipv4Datagram.fields_of_read read
  rw [bytes, header, Ipv4Fields.read?_encode] at found
  cases found
  rfl

end OutboundPacket

/-! ## From IPv4 to IPv6 -/

/-- The header of a packet that was sent to IPv6 for one that arrived over IPv4. -/
structure MappingTable.ShowsInIpv6 (table : MappingTable) (arrived : Ipv4Datagram)
    (sent : Ipv6Datagram) : Prop where
  trafficClass : sent.fields.trafficClass = 0
  flowLabel : sent.fields.flowLabel = 0
  hopLimit : sent.fields.hopLimit = arrived.fields.timeToLive
  /-- The source is placed under the network. -/
  source : sent.fields.source = .embed table.network arrived.fields.source
  /-- The destination is replaced by the one it is paired with. -/
  destination : table.ipv6Of? arrived.fields.destination = some sent.fields.destination
  /-- The protocol stays the same one, by the number it has in IPv6. -/
  protocol : UpperProtocol.ofNumber? .inet arrived.fields.protocol = some sent.protocol

namespace FourToSix

variable {crossing : FourToSix} {table : MappingTable}

theorem exists_header (crossing : FourToSix) (mtu : UInt16) (drawn : UInt32) :
    ∀ output ∈ crossing.packets mtu drawn,
      ∃ (header : Ipv6Header) (payloadLength : Nat), output.header = header.emit payloadLength := by
  intro output member
  simp only [packets] at member
  split at member
  next =>
    obtain ⟨piece, -, rfl⟩ := List.mem_map.mp member
    exact ⟨_, _, rfl⟩
  next =>
    split at member
    next =>
      obtain rfl := List.mem_singleton.mp member
      exact ⟨_, _, rfl⟩
    next =>
      obtain rfl := List.mem_singleton.mp member
      exact ⟨_, _, rfl⟩

/-- Every packet that is sent to IPv6 shows the header of the one that arrived. -/
theorem showsInIpv6 {datagram : Ipv4Datagram} {protocol : UpperProtocol}
    (named : UpperProtocol.ofNumber? .inet datagram.fields.protocol = some protocol)
    (fits : datagram.fields.fragmentOffset.toNat + datagram.payload.length ≤ 65535)
    (crosses : ofDatagram table datagram protocol = .ok crossing) (mtu : UInt16)
    (drawn : UInt32) : ∀ output ∈ crossing.packets mtu drawn,
      ∃ sent, Ipv6Datagram.read output.bytes = .ok sent ∧ table.ShowsInIpv6 datagram sent := by
  intro output member
  obtain ⟨leads, converted, carries⟩ := of_ofDatagram crosses
  have length := PacketView.length_convert rfl rfl converted
  have shows := carries.view?_packets datagram.offset_aligned (by rw [length]; exact fits)
    mtu drawn
  obtain ⟨shown, listed, seen⟩ := OutboundPacket.exists_of_shown shows output member
  obtain ⟨endpoints, same, hops⟩ := PacketView.headers_sent shown listed
  rw [view?, crossing.family_packets mtu drawn output member] at seen
  obtain ⟨sent, read, rfl⟩ := PacketView.read?_inet6 seen
  obtain ⟨header, payloadLength, written⟩ := crossing.exists_header mtu drawn output member
  obtain ⟨trafficClass, flowLabel⟩ := header.unmarked_fields payloadLength
  rw [← OutboundPacket.fields_of_ipv6 written read] at trafficClass flowLabel
  obtain ⟨source, destination⟩ : sent.fields.source = crossing.source ∧
      sent.fields.destination = crossing.destination := by
    simpa only [PacketView.ofIpv6, FourToSix.endpoints, Endpoints.mk.injEq, Address.v6.injEq]
      using endpoints
  cases leads with
  | fourToSix mapped =>
      obtain ⟨embedded, found⟩ := MappingTable.fourToSix_eq_ok_iff.mp mapped
      rw [← source] at embedded
      rw [← destination] at found
      refine ⟨sent, read, trafficClass, flowLabel, hops, embedded, found, ?_⟩
      exact named.trans (congrArg some same.symm)

end FourToSix

/-! ## From IPv6 to IPv4 -/

/-- The header of a packet that was sent to IPv4 for one that arrived over IPv6. -/
structure MappingTable.ShowsInIpv4 (table : MappingTable) (arrived : Ipv6Datagram)
    (sent : Ipv4Datagram) : Prop where
  serviceType : sent.fields.serviceType = 0
  timeToLive : sent.fields.timeToLive = arrived.fields.hopLimit
  /-- The source is replaced by the one it is paired with. -/
  source : table.ipv4Of? arrived.fields.source = some sent.fields.source
  /-- The destination is taken out of the network. -/
  destination : .embed table.network sent.fields.destination = arrived.fields.destination
  /-- The protocol stays the same one, by the number it has in IPv4. -/
  protocol : sent.fields.protocol = arrived.protocol.number .inet

namespace SixToFour

variable {crossing : SixToFour} {table : MappingTable}

theorem exists_header (crossing : SixToFour) (mtu : UInt16) (drawn : UInt32) :
    ∀ output ∈ crossing.packets mtu drawn,
      ∃ (header : Ipv4Header) (payloadLength : Nat), output.header = header.emit payloadLength := by
  intro output member
  simp only [packets] at member
  split at member
  next =>
    obtain ⟨piece, -, rfl⟩ := List.mem_map.mp member
    exact ⟨_, _, rfl⟩
  next =>
    obtain rfl := List.mem_singleton.mp member
    exact ⟨_, _, rfl⟩

/-- Every packet that is sent to IPv4 shows the header of the one that arrived. -/
theorem showsInIpv4 {packet : Bytes} {datagram : Ipv6Datagram}
    (arrived : Ipv6Datagram.read packet = .ok datagram)
    (chosen : table.classify datagram.fields.source datagram.fields.destination =
      some .sixToFour)
    (crosses : ofDatagram table datagram = .ok crossing) (mtu : UInt16) (drawn : UInt32) :
    ∀ output ∈ crossing.packets mtu drawn,
      ∃ sent, Ipv4Datagram.read output.bytes = .ok sent ∧ table.ShowsInIpv4 datagram sent := by
  intro output member
  obtain ⟨leads, converted, carries, fits, -⟩ := of_ofDatagram chosen crosses
  have length := PacketView.length_convert rfl rfl converted
  have shows := carries.view?_packets (Ipv6Datagram.sound arrived).offset_aligned
    (by rw [length]; exact fits) mtu drawn
  obtain ⟨shown, listed, seen⟩ := OutboundPacket.exists_of_shown shows output member
  obtain ⟨endpoints, same, hops⟩ := PacketView.headers_sent shown listed
  rw [view?, crossing.family_packets mtu drawn output member] at seen
  obtain ⟨sent, protocol, read, named, rfl⟩ := PacketView.read?_inet seen
  obtain ⟨header, payloadLength, written⟩ := crossing.exists_header mtu drawn output member
  have serviceType : sent.fields.serviceType = 0 := by
    rw [OutboundPacket.fields_of_ipv4 written read]
    rfl
  obtain ⟨source, destination⟩ : sent.fields.source = crossing.source ∧
      sent.fields.destination = crossing.destination := by
    simpa only [PacketView.ofIpv4, SixToFour.endpoints, Endpoints.mk.injEq, Address.v4.injEq]
      using endpoints
  cases leads with
  | sixToFour chosen mapped =>
      obtain ⟨-, -, covered⟩ := MappingTable.classify_eq_sixToFour_iff.mp chosen
      obtain ⟨found, low⟩ := MappingTable.sixToFour_eq_ok_iff.mp mapped
      rw [← source] at found
      refine ⟨sent, read, serviceType, hops, found, ?_, ?_⟩
      · rw [destination, low]
        exact MappingTable.embed_low covered
      · have same : protocol = datagram.protocol := same
        rw [UpperProtocol.eq_number_of_ofNumber? named, same]

end SixToFour

/-! ## Whatever is sent -/

namespace Translator

/-- Headers carry over, and only addresses in the table are sent from or to. -/
structure HeadersCarryOver (table : MappingTable) (family : Family) (packet : Bytes)
    (packets : List OutboundPacket) : Prop where
  /-- What is sent to IPv6 for a packet from the IPv4 side shows that packet's header. -/
  toIpv6 (arrives : family = .inet) : ∀ output ∈ packets, output.family = .inet6 →
    ∃ arrived sent, Ipv4Datagram.read packet = .ok arrived ∧
      Ipv6Datagram.read output.bytes = .ok sent ∧ table.ShowsInIpv6 arrived sent
  /-- What is sent to IPv4 for a packet from the IPv6 side shows that packet's header. -/
  toIpv4 (arrives : family = .inet6) : ∀ output ∈ packets, output.family = .inet →
    ∃ arrived sent, Ipv6Datagram.read packet = .ok arrived ∧
      Ipv4Datagram.read output.bytes = .ok sent ∧ table.ShowsInIpv4 arrived sent
  /-- Nothing but a notice is sent from an IPv4 address that is not in the table. -/
  sources : ∀ output ∈ packets, output.family = .inet → output.isNotice = false →
    ∃ sent, Ipv4Datagram.read output.bytes = .ok sent ∧ table.HasIpv4 sent.fields.source
  /-- Nothing from the IPv4 side is sent to an IPv6 address that is not in the table. -/
  destinations (arrives : family = .inet) : ∀ output ∈ packets, output.family = .inet6 →
    ∃ sent, Ipv6Datagram.read output.bytes = .ok sent ∧
      table.HasIpv6 sent.fields.destination

variable {translator : Translator} {surroundings : Surroundings} {family : Family}
  {packet : Bytes} {packets : List OutboundPacket} {plan : Plan}

/-- What is sent for a packet with a plan is a notice to its sender or carries the packet on. -/
theorem mem_packets_carryOut (planned : Plan.ofPacket translator.table family packet = .ok plan)
    {output : OutboundPacket}
    (member : output ∈ (translator.carryOut surroundings plan).packets) :
    (output.family = family ∧ output.isNotice = true) ∨
      output ∈ plan.carried translator.pathMtu surroundings.drawn := by
  obtain ⟨view, read⟩ := Plan.exists_view planned
  rw [packets_carryOut] at member
  rcases List.mem_append.mp member with notice | carries
  · have announced := (announces_of_plan read planned).announced output notice
    exact .inl ⟨announced.family, announced.isNotice⟩
  · exact .inr carries

/-- What is sent to IPv6 for a packet from the IPv4 side. -/
theorem showsInIpv6_of_mem (planned : Plan.ofPacket translator.table .inet packet = .ok plan)
    {output : OutboundPacket}
    (member : output ∈ (translator.carryOut surroundings plan).packets)
    (target : output.family = .inet6) :
    ∃ arrived sent, Ipv4Datagram.read packet = .ok arrived ∧
      Ipv6Datagram.read output.bytes = .ok sent ∧
        translator.table.ShowsInIpv6 arrived sent := by
  rcases mem_packets_carryOut planned member with ⟨same, -⟩ | carries
  · cases same.symm.trans target
  · cases Plan.made planned with
    | absorbIpv4 => cases carries
    | absorbUnquoted => cases carries
    | toIpv6 read named fits message crosses =>
        obtain ⟨sent, readable, shows⟩ :=
          FourToSix.showsInIpv6 named fits crosses _ _ output carries
        exact ⟨_, sent, read, readable, shows⟩

/-- What is sent to IPv4 for a packet from the IPv6 side. -/
theorem showsInIpv4_of_mem (planned : Plan.ofPacket translator.table .inet6 packet = .ok plan)
    {output : OutboundPacket}
    (member : output ∈ (translator.carryOut surroundings plan).packets)
    (target : output.family = .inet) :
    ∃ arrived sent, Ipv6Datagram.read packet = .ok arrived ∧
      Ipv4Datagram.read output.bytes = .ok sent ∧
        translator.table.ShowsInIpv4 arrived sent := by
  rcases mem_packets_carryOut planned member with ⟨same, -⟩ | carries
  · cases same.symm.trans target
  · cases Plan.made planned with
    | absorbIpv6 => cases carries
    | toIpv4 read message chosen crosses =>
        obtain ⟨sent, readable, shows⟩ :=
          SixToFour.showsInIpv4 read chosen crosses _ _ output carries
        exact ⟨_, sent, read, readable, shows⟩
    | withinIpv6 read message chosen becomes =>
        obtain ⟨_, _, _, _, _, rfl⟩ := SixToSix.packet_eq becomes
        obtain rfl := List.mem_singleton.mp carries
        cases target

/-- **Headers carry over, and only addresses in the table are sent from or to.** -/
theorem headers_carry_over
    (accepted : (translator.step surroundings family packet).result = .ok packets) :
    HeadersCarryOver translator.table family packet packets := by
  obtain ⟨plan, planned, rfl, -⟩ := exists_plan_of_accepted accepted
  refine ⟨?_, ?_, ?_, ?_⟩
  · rintro rfl output member target
    exact showsInIpv6_of_mem planned member target
  · rintro rfl output member target
    exact showsInIpv4_of_mem planned member target
  · intro output member target other
    cases family with
    | inet =>
        rcases mem_packets_carryOut planned member with ⟨-, notice⟩ | carries
        · cases notice.symm.trans other
        · -- What a packet from the IPv4 side becomes is sent to IPv6.
          cases Plan.made planned with
          | absorbIpv4 => cases carries
          | absorbUnquoted => cases carries
          | @toIpv6 _ _ _ crossing =>
              cases target.symm.trans (crossing.family_packets _ _ output carries)
    | inet6 =>
        obtain ⟨arrived, sent, -, read, shows⟩ := showsInIpv4_of_mem planned member target
        exact ⟨sent, read, MappingTable.hasIpv4_of_ipv4Of? shows.source⟩
  · rintro rfl output member target
    obtain ⟨arrived, sent, -, read, shows⟩ := showsInIpv6_of_mem planned member target
    exact ⟨sent, read, MappingTable.hasIpv6_of_ipv6Of? shows.destination⟩

theorem headers_carry_over_whole : ∃ packets,
    (Sample.translator.step Sample.answering .inet6
        (Sample.wholePacket (List.replicate 56 0))).result = .ok packets ∧
      HeadersCarryOver Sample.translator.table .inet6
        (Sample.wholePacket (List.replicate 56 0)) packets := by
  obtain ⟨view, packets, -, -, -, accepted, -⟩ := Sample.forwards_wholePacket
  exact ⟨packets, accepted, headers_carry_over accepted⟩

end Translator

end FamilyGateway
