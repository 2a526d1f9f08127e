import FamilyGateway.Proofs.Translator.Acceptance

/-!
# What changes within IPv6

A packet that stays in IPv6 is not written anew. One of its addresses is replaced by the one it
is paired with, the checksum at the beginning of its datagram is made to fit, the reserved
bits of a Fragment header are cleared, and every other byte that the header declares is sent
as it arrived (`Translator.Rewrites`).

The change can be taken back: the packet that is sent, with its addresses in the other order,
becomes the packet that arrived with its addresses in the other order, if it stays in IPv6 as
well. Only a checksum of zero may come back in its other form, since updating a checksum keeps
nothing but its residue (`Translator.stays_within_ipv6`).
-/

set_option autoImplicit false

namespace FamilyGateway

/-! ## Addresses -/

/-- One of two addresses is replaced by the one it is paired with, and the other one, which is in no
pair, stays. -/
inductive MappingTable.ReplacesOne (table : MappingTable) (source destination : Ipv6Address) :
    Ipv6Address → Ipv6Address → Prop where
  | source {mapped : Ipv6Address} (paired : table.peerOf? source = some mapped)
      (alone : table.peerOf? destination = none) (changed : mapped ≠ source) :
      ReplacesOne table source destination mapped destination
  | destination {mapped : Ipv6Address} (alone : table.peerOf? source = none)
      (paired : table.peerOf? destination = some mapped) (changed : mapped ≠ destination) :
      ReplacesOne table source destination source mapped

theorem MappingTable.Distinct.replacesOne {table : MappingTable} (distinct : table.Distinct)
    {source destination newSource newDestination : Ipv6Address}
    (mapped : table.sixToSix source destination = .ok (newSource, newDestination)) :
    table.ReplacesOne source destination newSource newDestination := by
  rcases sixToSix_eq_ok_iff.mp mapped with ⟨paired, alone, rfl⟩ | ⟨alone, paired, rfl⟩
  · exact .source paired alone (distinct.peerOf?_ne paired)
  · exact .destination alone paired (distinct.peerOf?_ne paired)

/-! ## The payload -/

namespace Ipv6Datagram

variable {datagram : Ipv6Datagram} {after : Endpoints} {payload : Bytes}

/-- The payload is that of the packet, apart from the checksum, which stands at the beginning of a
datagram only. -/
structure KeepsPayload (datagram : Ipv6Datagram) (payload : Bytes) : Prop where
  length : payload.length = datagram.payload.length
  elsewhere (index : Nat) (notFirst : index ≠ datagram.protocol.checksumOffset)
    (notSecond : index ≠ datagram.protocol.checksumOffset + 1) :
    payload[index]? = datagram.payload[index]?
  changed : payload ≠ datagram.payload → datagram.fragmentOffset = 0 ∧ datagram.payload ≠ []

theorem keepsPayload_of_convert (led : after.source.family = after.destination.family)
    (converted : (PacketView.ofIpv6 datagram).convert .sixToSix after = .ok payload) :
    datagram.KeepsPayload payload := by
  have length := PacketView.length_convert rfl led converted
  by_cases first : (PacketView.ofIpv6 datagram).offset = 0
  · rw [PacketView.convert_of_segment first fun _ => rfl] at converted
    refine ⟨length, fun index => Segment.getElem?_readdress converted, fun changed => ?_⟩
    refine ⟨Plan.offset_ofIpv6_eq_zero_iff.mp first, fun empty => changed ?_⟩
    rw [empty]
    exact List.eq_nil_of_length_eq_zero (length.trans (congrArg List.length empty))
  · rw [PacketView.convert_of_offset first] at converted
    cases converted
    exact ⟨length, fun _ _ _ => rfl, fun changed => absurd rfl changed⟩

/-- The payload is that of the packet, apart from the form of a checksum of zero, which stands at
the beginning of a datagram only. -/
structure RestoresPayload (datagram : Ipv6Datagram) (payload : Bytes) : Prop where
  upToZero : Segment.SameUpToZero datagram.protocol datagram.payload payload
  later : datagram.fragmentOffset ≠ 0 → payload = datagram.payload

/-- The packet with other addresses and another payload. -/
def readdressed (datagram : Ipv6Datagram) (source destination : Ipv6Address) (payload : Bytes) :
    Ipv6Datagram :=
  { datagram with
    fields := { datagram.fields with source := source, destination := destination }
    payload := payload }

/-- A payload that fits new addresses can be made to fit the old ones again. -/
theorem exists_convert_back {source destination : Ipv6Address}
    (converted : (PacketView.ofIpv6 datagram).convert .sixToSix ⟨.v6 source, .v6 destination⟩ =
      .ok payload) :
    ∃ restored, (PacketView.ofIpv6 (datagram.readdressed destination source payload)).convert
        .sixToSix ⟨.v6 datagram.fields.destination, .v6 datagram.fields.source⟩ =
          .ok restored ∧
      datagram.RestoresPayload restored := by
  by_cases first : (PacketView.ofIpv6 datagram).offset = 0
  · rw [PacketView.convert_of_segment first fun _ => rfl] at converted
    obtain ⟨restored, back, upToZero⟩ := Segment.readdress_back rfl rfl converted
    refine ⟨restored, ?_, upToZero, fun later => ?_⟩
    · refine (PacketView.convert_of_segment ?_ fun _ => rfl).trans back
      exact first
    · exact absurd (Plan.offset_ofIpv6_eq_zero_iff.mp first) later
  · rw [PacketView.convert_of_offset first] at converted
    cases converted
    exact ⟨_, PacketView.convert_of_offset first, .same, fun _ => rfl⟩

/-! ## The bytes -/

variable {extension packet : Bytes}

/-- The packet with other addresses and a payload of the same length, without reserved bits, is laid
out as an IPv6 packet. -/
theorem LaidOut.readdressed (laidOut : datagram.LaidOut extension packet)
    (source destination : Ipv6Address) (length : payload.length = datagram.payload.length) :
    (datagram.readdressed source destination payload).LaidOut
      (FragmentHeader.clearReserved extension)
      ((datagram.readdressed source destination payload).assemble
        (FragmentHeader.clearReserved extension)) where
  bytes := ⟨[], by rw [List.append_nil, assemble]⟩
  between := laidOut.between.cleared
  version := laidOut.version
  announced := SixToSix.announced_readdressed (sound laidOut.read) source destination length

/-- Such a packet is a packet-too-big message only if it was one. -/
theorem not_isTooBig_readdressed (other : ¬ datagram.IsTooBig) (source destination : Ipv6Address)
    (front : payload.head? = datagram.payload.head?) :
    ¬ (datagram.readdressed source destination payload).IsTooBig := by
  rintro ⟨message, whole, tooBig⟩
  exact other ⟨message, whole, front.symm.trans tooBig⟩

end Ipv6Datagram

/-! ## The step -/

namespace Translator

variable {translator : Translator} {surroundings : Surroundings} {datagram : Ipv6Datagram}
  {extension packet : Bytes} {packets : List OutboundPacket}

/-- What is sent for a packet that stays in IPv6. -/
theorem exists_sent_withinIpv6 {source destination : Ipv6Address} {payload : Bytes}
    (laidOut : datagram.LaidOut extension packet) (other : ¬ datagram.IsTooBig)
    (chosen : translator.table.classify datagram.fields.source datagram.fields.destination =
      some .sixToSix)
    (mapped : translator.table.sixToSix datagram.fields.source datagram.fields.destination =
      .ok (source, destination))
    (converted : (PacketView.ofIpv6 datagram).convert .sixToSix
      ⟨.v6 source, .v6 destination⟩ = .ok payload) :
    ∃ output, (translator.step surroundings .inet6 packet).result = .ok [output] ∧
      output.family = .inet6 ∧
      output.bytes = (datagram.readdressed source destination payload).assemble
        (FragmentHeader.clearReserved extension) := by
  obtain ⟨output, becomes⟩ := SixToSix.exists_packet (.sixToSix chosen mapped) converted
  have message := Bool.eq_false_iff.mpr (Ipv6Datagram.isTooBig_iff.not.mpr other)
  have planned := Plan.of_made (.withinIpv6 laidOut.read message chosen becomes)
  refine ⟨output, result_of_plan planned, ?_⟩
  obtain ⟨newSource, newDestination, carried, same, fits, rfl⟩ := SixToSix.packet_eq becomes
  cases mapped.symm.trans same
  cases converted.symm.trans fits
  refine ⟨rfl, ?_⟩
  simp only [OutboundPacket.bytes, OutboundPacket.segments, List.flatten_append,
    List.flatten_singleton, laidOut.between.flatten_encode, List.append_assoc]
  rfl

/-- A packet that stays in IPv6 is accepted only if the table has other addresses for it and its
payload can be made to fit them. -/
theorem exists_converted_withinIpv6 (laidOut : datagram.LaidOut extension packet)
    (other : ¬ datagram.IsTooBig)
    (chosen : translator.table.classify datagram.fields.source datagram.fields.destination =
      some .sixToSix)
    (accepted : (translator.step surroundings .inet6 packet).result = .ok packets) :
    ∃ source destination payload,
      translator.table.sixToSix datagram.fields.source datagram.fields.destination =
        .ok (source, destination) ∧
      (PacketView.ofIpv6 datagram).convert .sixToSix ⟨.v6 source, .v6 destination⟩ =
        .ok payload := by
  obtain ⟨plan, planned, -, -⟩ := exists_plan_of_accepted accepted
  cases Plan.made planned with
  | absorbIpv6 read message =>
      cases laidOut.read.symm.trans read
      exact absurd (Ipv6Datagram.isTooBig_iff.mp message) other
  | toIpv4 read message crosses =>
      cases laidOut.read.symm.trans read
      cases chosen.symm.trans crosses
  | withinIpv6 read message stays becomes =>
      cases laidOut.read.symm.trans read
      obtain ⟨source, destination, payload, mapped, converted, -⟩ := SixToSix.packet_eq becomes
      exact ⟨source, destination, payload, mapped, converted⟩

/-- What is sent for a packet that stays in IPv6 differs from it in one address, in the checksum and
in reserved bits only, and can be sent back. -/
structure Rewrites (translator : Translator) (datagram : Ipv6Datagram) (extension packet : Bytes)
    (source destination : Ipv6Address) (payload : Bytes) (output : OutboundPacket) : Prop where
  family : output.family = .inet6
  length : output.bytes.length = 40 + datagram.fields.payloadLength.toNat
  /-- The bytes that arrived. -/
  arrived : packet.take (40 + datagram.fields.payloadLength.toNat) = datagram.assemble extension
  /-- The bytes that are sent have other addresses and another payload, and no reserved bits. -/
  sent : output.bytes = (datagram.readdressed source destination payload).assemble
    (FragmentHeader.clearReserved extension)
  replaces : translator.table.ReplacesOne datagram.fields.source datagram.fields.destination
    source destination
  keeps : datagram.KeepsPayload payload
  /-- A reply of the same bytes that stays in IPv6 gets the addresses and the payload that the
  packet arrived with. -/
  returns (current : Translator) (same : current.table = translator.table)
    (surroundings : Surroundings)
    (chosen : translator.table.classify destination source = some .sixToSix) :
    ∃ restored back, datagram.RestoresPayload restored ∧
      (current.step surroundings .inet6
        ((datagram.readdressed destination source payload).assemble
          (FragmentHeader.clearReserved extension))).result = .ok [back] ∧
      back.family = .inet6 ∧
      back.bytes = (datagram.readdressed datagram.fields.destination datagram.fields.source
        restored).assemble (FragmentHeader.clearReserved extension)

/-- **Within IPv6 a packet changes only where it must.** -/
theorem stays_within_ipv6 (loaded : translator.table.Loaded)
    (laidOut : datagram.LaidOut extension packet) (other : ¬ datagram.IsTooBig)
    (chosen : translator.table.classify datagram.fields.source datagram.fields.destination =
      some .sixToSix)
    (accepted : (translator.step surroundings .inet6 packet).result = .ok packets) :
    ∃ source destination payload output, packets = [output] ∧
      translator.Rewrites datagram extension packet source destination payload output := by
  obtain ⟨source, destination, payload, mapped, converted⟩ :=
    exists_converted_withinIpv6 laidOut other chosen accepted
  obtain ⟨output, result, family, sent⟩ :=
    exists_sent_withinIpv6 laidOut other chosen mapped converted
  cases accepted.symm.trans result
  have keeps := Ipv6Datagram.keepsPayload_of_convert rfl converted
  have rewritten := laidOut.readdressed source destination keeps.length
  refine ⟨source, destination, payload, output, rfl, family, ?_, laidOut.take_eq, sent,
    loaded.distinct.replacesOne mapped, keeps, ?_⟩
  · rw [sent]
    exact rewritten.length_assemble
  · intro current same surroundings chosen
    obtain ⟨restored, fits, restores⟩ := Ipv6Datagram.exists_convert_back converted
    have front := PacketView.head?_convert_sixToSix converted
    have distinct := loaded.distinct
    rw [← same] at chosen mapped distinct
    obtain ⟨back, result, family, sent⟩ := exists_sent_withinIpv6
      (laidOut.readdressed destination source keeps.length)
      (Ipv6Datagram.not_isTooBig_readdressed other destination source front) chosen
      (distinct.reply_withinIpv6 mapped) fits
    refine ⟨restored, back, restores, result, family, ?_⟩
    rw [sent, FragmentHeader.clearReserved_clearReserved]
    rfl

end Translator

/-! ## A packet with reserved bits -/

namespace Sample

/-- A datagram in one piece, with a Fragment header nonetheless, from the host that is known by
another address to one that the table does not know. -/
def atomicDatagram : Ipv6Datagram where
  fields := ⟨0x60000000, 16, fragmentNumber, 64, peer.inner, MappingTable.strangerIpv6⟩
  fragment := some ⟨17, 0, false, 1⟩
  protocol := .udp
  payload := List.replicate 8 1

/-- Its Fragment header with every reserved bit set. -/
def atomicExtension : Bytes := [17, 0xff, 0, 6, 0, 0, 0, 1]

theorem laidOut_atomic :
    atomicDatagram.LaidOut atomicExtension (atomicDatagram.assemble atomicExtension) where
  bytes := ⟨[], by rw [List.append_nil, Ipv6Datagram.assemble]⟩
  between := ⟨rfl, fun _ => rfl⟩
  version := rfl
  announced := .fragment _ rfl rfl rfl rfl

/-- The host's address is replaced by the one it is known by. -/
theorem mapped_atomic :
    translator.table.classify atomicDatagram.fields.source atomicDatagram.fields.destination =
        some .sixToSix ∧
      translator.table.sixToSix atomicDatagram.fields.source atomicDatagram.fields.destination =
        .ok (peer.outer, MappingTable.strangerIpv6) := by
  decide

theorem accepted_atomic : ∃ packets,
    (translator.step answering .inet6 (atomicDatagram.assemble atomicExtension)).result =
      .ok packets := by
  obtain ⟨chosen, mapped⟩ := mapped_atomic
  have leads : translator.table.Leads .sixToSix (PacketView.ofIpv6 atomicDatagram).endpoints
      ⟨.v6 peer.outer, .v6 MappingTable.strangerIpv6⟩ := .sixToSix chosen mapped
  obtain ⟨payload, converted⟩ := (PacketView.exists_convert_iff leads).mpr fun _ =>
    .segment (fun _ => rfl) (fun _ => Nat.le_refl 8) nofun
  obtain ⟨output, becomes⟩ := SixToSix.exists_packet leads converted
  exact ⟨_, Translator.result_of_plan
    (Plan.of_made (.withinIpv6 laidOut_atomic.read rfl chosen becomes))⟩

end Sample

theorem Translator.stays_within_ipv6_atomic :
    Sample.translator.table.Loaded ∧
      Sample.atomicDatagram.LaidOut Sample.atomicExtension
        (Sample.atomicDatagram.assemble Sample.atomicExtension) ∧
      ¬ Sample.atomicDatagram.IsTooBig ∧
      Sample.translator.table.classify Sample.peer.inner MappingTable.strangerIpv6 =
        some .sixToSix ∧
      Sample.translator.table.classify MappingTable.strangerIpv6 Sample.peer.outer =
        some .sixToSix ∧
      ∃ packets,
        (Sample.translator.step Sample.answering .inet6
            (Sample.atomicDatagram.assemble Sample.atomicExtension)).result = .ok packets ∧
        ∃ source destination payload output, packets = [output] ∧
          Sample.translator.Rewrites Sample.atomicDatagram Sample.atomicExtension
            (Sample.atomicDatagram.assemble Sample.atomicExtension) source destination payload
            output := by
  have loaded : Sample.translator.table.Loaded := MappingTable.loaded_clashingTable
  have other : ¬ Sample.atomicDatagram.IsTooBig := by
    rintro ⟨message, -⟩
    cases message
  obtain ⟨chosen, -⟩ := Sample.mapped_atomic
  have replies : Sample.translator.table.classify MappingTable.strangerIpv6 Sample.peer.outer =
      some .sixToSix := by
    decide
  obtain ⟨packets, accepted⟩ := Sample.accepted_atomic
  exact ⟨loaded, Sample.laidOut_atomic, other, chosen, replies, packets, accepted,
    stays_within_ipv6 loaded Sample.laidOut_atomic other chosen accepted⟩

end FamilyGateway
