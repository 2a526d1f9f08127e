import FamilyGateway.Proofs.Translator.Ways

/-!
# Packets on their way

A packet that crosses is described by the parts of its headers that all its pieces
share. If they are those of the packet that arrived (`FourToSix.CarriesOn`,
`SixToFour.CarriesOn`), then the packets that are sent show what they should
(`FourToSix.view?_packets`, `SixToFour.view?_packets`), although lengths and offsets
are written into sixteen bits: the datagram ends below 65536, so nothing wraps around.

The crossing that is made of a packet describes it (`FourToSix.of_ofDatagram`,
`SixToFour.of_ofDatagram`), and one is made of every packet that the table leads
across and whose payload can be converted (`FourToSix.exists_ofDatagram`,
`SixToFour.exists_ofDatagram`).
-/

set_option autoImplicit false

namespace FamilyGateway

open OutboundPacket (view?)

/-- The offset of a piece that lies below 65536 does not wrap around. -/
theorem toNat_offset_add {offset : UInt16} {base start : Nat} (placed : offset.toNat = base)
    (within : base + start < 65536) : (offset + UInt16.ofNat start).toNat = base + start := by
  rw [UInt16.toNat_add, UInt16.toNat_ofNat', placed]
  omega

/-! ## From IPv4 to IPv6 -/

namespace FourToSix

/-- The endpoints over IPv6. -/
def endpoints (crossing : FourToSix) : Endpoints :=
  ⟨.v6 crossing.source, .v6 crossing.destination⟩

@[simp] theorem destination_endpoints (crossing : FourToSix) :
    crossing.endpoints.destination = .v6 crossing.destination := rfl

/-- What the crossing keeps is what the packet that arrived shows. -/
structure CarriesOn (crossing : FourToSix) (view : PacketView) : Prop where
  protocol : crossing.protocol = view.protocol
  hopLimit : crossing.hopLimit = view.hopLimit
  identification : view.identification = some crossing.identification.toUInt32
  offset : crossing.offset.toNat = view.offset
  moreFragments : crossing.moreFragments = view.moreFragments

variable {crossing : FourToSix} {view : PacketView}

theorem CarriesOn.isFragment (carries : crossing.CarriesOn view) :
    crossing.isFragment = view.isFragment := by
  rw [FourToSix.isFragment, PacketView.isFragment, carries.moreFragments,
    PacketView.bne_zero_eq_toNat, carries.offset]

/-- The identification over IPv6 is drawn if the one over IPv4 is zero. -/
theorem CarriesOn.identificationOr (carries : crossing.CarriesOn view) (drawn : UInt32) :
    some (crossing.identificationOr drawn) =
      Way.identification drawn view.identification .fourToSix := by
  have zero : crossing.identification = 0 ↔ crossing.identification.toUInt32 = 0 := by
    rw [← UInt16.toNat_inj, ← UInt32.toNat_inj, UInt16.toNat_toUInt32]
    rfl
  simp only [FourToSix.identificationOr, Way.identification, carries.identification,
    Option.some.injEq, Option.getD_some, zero]

/-- The packet for the whole payload. -/
theorem CarriesOn.view?_whole (carries : crossing.CarriesOn view)
    (whole : view.isFragment = false) (fits : crossing.payload.length < 65536) :
    view? crossing.whole =
      some (view.part crossing.endpoints none true ⟨0, crossing.payload, true⟩) := by
  obtain ⟨last, start⟩ : view.moreFragments = false ∧ view.offset = 0 := by
    simpa [PacketView.isFragment] using whole
  refine (OutboundPacket.view?_plain _ crossing.protocol crossing.payload
    (Ipv6Header.version_fields _ _) ?_ rfl).trans ?_
  · exact Nat.mod_eq_of_lt fits
  · simp only [PacketView.ofIpv6, PacketView.part, Ipv6Datagram.fragmentOffset,
      Ipv6Datagram.moreFragments, Ipv6Header.fields, Option.map_none, carries.protocol,
      carries.hopLimit, endpoints, last, start]
    rfl

/-- The packet for a piece of the payload. -/
theorem CarriesOn.view?_fragment (carries : crossing.CarriesOn view) (identification : UInt32)
    {piece : Piece} (aligned : (view.offset + piece.start) % 8 = 0)
    (within : view.offset + piece.start < 65536) (fits : 8 + piece.data.length < 65536) :
    view? (crossing.fragment identification piece) =
      some (view.part crossing.endpoints (some identification) true piece) := by
  have offset := toNat_offset_add carries.offset within
  refine (OutboundPacket.view?_fragment _ _ crossing.protocol piece.data
    (Ipv6Header.version_fields _ _) ?_ rfl rfl ?_).trans ?_
  · exact Nat.mod_eq_of_lt fits
  · rw [offset]
    exact aligned
  · simp only [PacketView.ofIpv6, PacketView.part, Ipv6Datagram.fragmentOffset,
      Ipv6Datagram.moreFragments, Ipv6Header.fields, Option.map_some, offset, carries.protocol,
      carries.hopLimit, carries.moreFragments, endpoints]

/-- **The packets that are sent to IPv6 show what they should.** -/
theorem CarriesOn.view?_packets (carries : crossing.CarriesOn view)
    (aligned : view.offset % 8 = 0) (fits : view.offset + crossing.payload.length ≤ 65535)
    (mtu : UInt16) (drawn : UInt32) :
    (crossing.packets mtu drawn).map view? =
      (view.sent .fourToSix crossing.endpoints mtu drawn crossing.payload).map some := by
  have bound := mtu.toNat_lt
  have identification := carries.identificationOr drawn
  unfold packets PacketView.sent Way.roomFor? isSplit
  by_cases split : room mtu < crossing.payload.length
  · simp only [split, decide_true, if_true, List.map_map]
    refine List.map_congr_left fun piece member => ?_
    obtain ⟨_, start, inside, short⟩ := Piece.cut_bounds _ _ _ piece member
    simp only [Piece.size, room, overhead, Ipv6Fields.byteLength, FragmentHeader.byteLength]
      at short
    rw [Function.comp, Function.comp, ← identification]
    exact carries.view?_fragment _ (by omega) (by omega) (by omega)
  · simp only [split, decide_false, if_false, Bool.false_eq_true]
    simp only [room, overhead, Ipv6Fields.byteLength, FragmentHeader.byteLength] at split
    cases fragment : view.isFragment with
    | true =>
        have only : view? (crossing.fragment (crossing.identificationOr drawn)
            ⟨0, crossing.payload, true⟩) = some (view.part crossing.endpoints _ true _) :=
          carries.view?_fragment _ aligned (Nat.lt_succ_of_le (Nat.le_of_add_right_le fits))
            (show 8 + crossing.payload.length < 65536 by omega)
        rw [carries.isFragment, fragment, if_pos rfl, List.map_singleton, List.map_singleton, only]
        simp only [PacketView.whole, fragment, if_true, identification]
    | false =>
        rw [carries.isFragment, fragment, if_neg Bool.false_ne_true, List.map_singleton,
          List.map_singleton, carries.view?_whole fragment (by omega)]
        simp only [PacketView.whole, fragment, Bool.false_eq_true, if_false]

theorem family_packets (crossing : FourToSix) (mtu : UInt16) (drawn : UInt32) :
    ∀ packet ∈ crossing.packets mtu drawn, packet.family = .inet6 := by
  intro packet member
  unfold packets at member
  split at member
  next =>
    obtain ⟨piece, _, rfl⟩ := List.mem_map.mp member
    rfl
  next =>
    split at member
    next =>
      rw [List.mem_singleton.mp member]
      rfl
    next =>
      rw [List.mem_singleton.mp member]
      rfl

/-- The payload is converted as the view of the packet says. -/
theorem convertPayload_eq (datagram : Ipv4Datagram) (protocol : UpperProtocol)
    (source destination : Ipv6Address) :
    convertPayload datagram protocol source destination =
      (PacketView.ofIpv4 datagram protocol).convert .fourToSix
        ⟨.v6 source, .v6 destination⟩ := by
  have fragment := PacketView.isFragment_ofIpv4 datagram protocol
  by_cases first : datagram.fields.fragmentOffset = 0
  · have start : (PacketView.ofIpv4 datagram protocol).offset = 0 :=
      congrArg UInt16.toNat first
    unfold convertPayload PacketView.convert
    rw [if_neg (not_not_intro first), if_neg (not_not_intro start), fragment]
    cases protocol <;> rfl
  · have start : (PacketView.ofIpv4 datagram protocol).offset ≠ 0 :=
      fun zero => first (UInt16.toNat_inj.mp zero)
    unfold convertPayload PacketView.convert
    rw [if_pos first, if_pos start]
    rfl

/-- A packet that gets on its way is led there by the table, and is described by the crossing. -/
theorem of_ofDatagram {table : MappingTable} {datagram : Ipv4Datagram}
    {protocol : UpperProtocol} (ok : ofDatagram table datagram protocol = .ok crossing) :
    table.Leads .fourToSix (PacketView.ofIpv4 datagram protocol).endpoints crossing.endpoints ∧
      (PacketView.ofIpv4 datagram protocol).convert .fourToSix crossing.endpoints =
        .ok crossing.payload ∧
      crossing.CarriesOn (PacketView.ofIpv4 datagram protocol) := by
  unfold ofDatagram at ok
  split at ok
  next => cases ok
  next source destination mapped =>
    rw [convertPayload_eq] at ok
    cases converted : (PacketView.ofIpv4 datagram protocol).convert .fourToSix
        ⟨.v6 source, .v6 destination⟩ with
    | error reason => rw [converted] at ok; cases ok
    | ok payload =>
        rw [converted] at ok
        cases ok
        exact ⟨.fourToSix mapped, converted, rfl, rfl, rfl, rfl, rfl⟩

/-- A packet that the table leads to IPv6 gets on its way if its payload can be converted. -/
theorem exists_ofDatagram {table : MappingTable} {datagram : Ipv4Datagram}
    {protocol : UpperProtocol} {after : Endpoints} {payload : Bytes}
    (leads : table.Leads .fourToSix (PacketView.ofIpv4 datagram protocol).endpoints after)
    (converted : (PacketView.ofIpv4 datagram protocol).convert .fourToSix after = .ok payload) :
    ∃ crossing, ofDatagram table datagram protocol = .ok crossing := by
  cases leads with
  | fourToSix mapped =>
      unfold ofDatagram
      rw [mapped]
      simp only [convertPayload_eq, converted]
      exact ⟨_, rfl⟩

end FourToSix

/-! ## From IPv6 to IPv4 -/

namespace SixToFour

/-- The endpoints over IPv4. -/
def endpoints (crossing : SixToFour) : Endpoints :=
  ⟨.v4 crossing.source, .v4 crossing.destination⟩

@[simp] theorem destination_endpoints (crossing : SixToFour) :
    crossing.endpoints.destination = .v4 crossing.destination := rfl

/-- What the crossing keeps is what the packet that arrived shows. -/
structure CarriesOn (crossing : SixToFour) (view : PacketView) : Prop where
  protocol : crossing.protocol = view.protocol
  timeToLive : crossing.timeToLive = view.hopLimit
  identification : crossing.identification = view.identification
  offset : crossing.offset.toNat = view.offset
  moreFragments : crossing.moreFragments = view.moreFragments

variable {crossing : SixToFour} {view : PacketView}

/-- The packet for the whole payload. -/
theorem CarriesOn.view?_whole (carries : crossing.CarriesOn view) (aligned : view.offset % 8 = 0)
    (fits : 20 + crossing.payload.length < 65536) (drawn : UInt32) :
    view? (crossing.whole drawn) =
      some (view.whole .sixToFour crossing.endpoints drawn crossing.payload) := by
  refine (OutboundPacket.view?_ipv4 _ crossing.protocol crossing.payload rfl ?_ fits).trans ?_
  · show crossing.offset.toNat % 8 = 0
    rw [carries.offset]
    exact aligned
  · simp only [PacketView.whole, PacketView.part, header, Way.identification, identificationOr,
      carries.protocol, carries.timeToLive, carries.identification, carries.offset,
      carries.moreFragments, endpoints]
    rfl

/-- The packet for a piece of the payload. -/
theorem CarriesOn.view?_fragment (carries : crossing.CarriesOn view) (drawn : UInt32)
    {piece : Piece} (aligned : (view.offset + piece.start) % 8 = 0)
    (within : view.offset + piece.start < 65536) (fits : 20 + piece.data.length < 65536) :
    view? (crossing.fragment drawn piece) =
      some (view.part crossing.endpoints
        (Way.identification drawn view.identification .sixToFour) false piece) := by
  have offset := toNat_offset_add carries.offset within
  refine (OutboundPacket.view?_ipv4 _ crossing.protocol piece.data rfl ?_ fits).trans ?_
  · show (crossing.offset + UInt16.ofNat piece.start).toNat % 8 = 0
    rw [offset]
    exact aligned
  · simp only [PacketView.part, header, Way.identification, identificationOr, carries.protocol,
      carries.timeToLive, carries.identification, offset, carries.moreFragments, endpoints]

/-- **The packets that are sent to IPv4 show what they should.** -/
theorem CarriesOn.view?_packets (carries : crossing.CarriesOn view)
    (aligned : view.offset % 8 = 0) (fits : view.offset + crossing.payload.length ≤ 65535)
    (mtu : UInt16) (drawn : UInt32) :
    (crossing.packets mtu drawn).map view? =
      (view.sent .sixToFour crossing.endpoints mtu drawn crossing.payload).map some := by
  have bound := mtu.toNat_lt
  unfold packets PacketView.sent Way.roomFor? isSplit
  by_cases split : mtu.toNat < Ipv4Fields.byteLength + crossing.payload.length
  · simp only [split, decide_true, if_true, List.map_map]
    refine List.map_congr_left fun piece member => ?_
    obtain ⟨_, start, inside, short⟩ := Piece.cut_bounds _ _ _ piece member
    simp only [Piece.size, room, Ipv4Fields.byteLength] at short
    exact carries.view?_fragment drawn (by omega) (by omega) (by omega)
  · simp only [split, decide_false, if_false, Bool.false_eq_true]
    simp only [Ipv4Fields.byteLength] at split
    rw [List.map_singleton, List.map_singleton, carries.view?_whole aligned (by omega)]

theorem family_packets (crossing : SixToFour) (mtu : UInt16) (drawn : UInt32) :
    ∀ packet ∈ crossing.packets mtu drawn, packet.family = .inet := by
  intro packet member
  unfold packets at member
  split at member
  next =>
    obtain ⟨piece, _, rfl⟩ := List.mem_map.mp member
    rfl
  next =>
    rw [List.mem_singleton.mp member]
    rfl

/-- The payload is converted as the view of the packet says. -/
theorem convertPayload_eq (datagram : Ipv6Datagram) (source destination : Ipv4Address) :
    convertPayload datagram source destination =
      (PacketView.ofIpv6 datagram).convert .sixToFour ⟨.v4 source, .v4 destination⟩ := by
  have fragment := PacketView.isFragment_ofIpv6 datagram
  by_cases first : datagram.fragmentOffset = 0
  · have start : (PacketView.ofIpv6 datagram).offset = 0 := congrArg UInt16.toNat first
    unfold convertPayload PacketView.convert
    rw [if_neg (not_not_intro first), if_neg (not_not_intro start), fragment]
    cases named : datagram.protocol with
    | tcp => simp only [PacketView.ofIpv6, named]
    | udp => simp only [PacketView.ofIpv6, named]
    | icmp =>
        simp only [PacketView.ofIpv6, named]
        rfl
  · have start : (PacketView.ofIpv6 datagram).offset ≠ 0 :=
      fun zero => first (UInt16.toNat_inj.mp zero)
    unfold convertPayload PacketView.convert
    rw [if_pos first, if_pos start]
    rfl

/-- A packet that gets on its way is led there by the table, and is described by the crossing. Its
datagram is not too large, and no message in fragments. -/
theorem of_ofDatagram {table : MappingTable} {datagram : Ipv6Datagram}
    (chosen : table.classify datagram.fields.source datagram.fields.destination = some .sixToFour)
    (ok : ofDatagram table datagram = .ok crossing) :
    table.Leads .sixToFour (PacketView.ofIpv6 datagram).endpoints crossing.endpoints ∧
      (PacketView.ofIpv6 datagram).convert .sixToFour crossing.endpoints =
        .ok crossing.payload ∧
      crossing.CarriesOn (PacketView.ofIpv6 datagram) ∧
      datagram.fragmentOffset.toNat + datagram.payload.length ≤ 65535 ∧
      (datagram.protocol = .icmp → datagram.isFragment = false) := by
  unfold ofDatagram at ok
  split at ok
  next => cases ok
  next plain =>
    split at ok
    next => cases ok
    next fits =>
      split at ok
      next => cases ok
      next source destination mapped =>
        rw [convertPayload_eq] at ok
        cases converted : (PacketView.ofIpv6 datagram).convert .sixToFour
            ⟨.v4 source, .v4 destination⟩ with
        | error reason => rw [converted] at ok; cases ok
        | ok payload =>
            rw [converted] at ok
            cases ok
            exact ⟨.sixToFour chosen mapped, converted, ⟨rfl, rfl, rfl, rfl, rfl⟩,
              Nat.le_of_not_lt fits,
              fun message => Bool.eq_false_iff.mpr fun fragment => plain ⟨message, fragment⟩⟩

/-- A packet that the table leads to IPv4 gets on its way if its payload can be converted, and
its datagram is not too large and no fragmented message. -/
theorem exists_ofDatagram {table : MappingTable} {datagram : Ipv6Datagram} {after : Endpoints}
    {payload : Bytes} (plain : ¬ (datagram.protocol = .icmp ∧ datagram.isFragment = true))
    (fits : datagram.fragmentOffset.toNat + datagram.payload.length ≤ 65535)
    (leads : table.Leads .sixToFour (PacketView.ofIpv6 datagram).endpoints after)
    (converted : (PacketView.ofIpv6 datagram).convert .sixToFour after = .ok payload) :
    ∃ crossing, ofDatagram table datagram = .ok crossing := by
  cases leads with
  | sixToFour chosen mapped =>
      unfold ofDatagram maxDatagram
      rw [if_neg plain, if_neg (Nat.not_lt_of_le fits), mapped]
      simp only [convertPayload_eq, converted]
      exact ⟨_, rfl⟩

end SixToFour

/-! ## Within IPv6 -/

namespace SixToSix

/-- The payload is converted as the view of the packet says. -/
theorem convertPayload_eq (datagram : Ipv6Datagram) (source destination : Ipv6Address) :
    convertPayload datagram source destination =
      (PacketView.ofIpv6 datagram).convert .sixToSix ⟨.v6 source, .v6 destination⟩ := by
  have fragment := PacketView.isFragment_ofIpv6 datagram
  by_cases first : datagram.fragmentOffset = 0
  · have start : (PacketView.ofIpv6 datagram).offset = 0 := congrArg UInt16.toNat first
    rw [PacketView.convert_of_segment start fun _ => rfl]
    unfold convertPayload
    rw [if_neg (not_not_intro first), fragment]
    rfl
  · have start : (PacketView.ofIpv6 datagram).offset ≠ 0 :=
      fun zero => first (UInt16.toNat_inj.mp zero)
    rw [PacketView.convert_of_offset start]
    unfold convertPayload
    rw [if_pos first]
    rfl

/-- A header that was read with another source and destination still announces the payload. -/
theorem announced_readdressed {datagram : Ipv6Datagram} (sound : datagram.Sound)
    (source destination : Ipv6Address) {payload : Bytes}
    (length : payload.length = datagram.payload.length) :
    Ipv6Datagram.Announced { datagram.fields with source := source, destination := destination }
      datagram.protocol payload datagram.fragment := by
  obtain ⟨fields, fragment, protocol, carried⟩ := datagram
  cases sound.announced with
  | plain next declared => exact .plain next (declared.trans length.symm)
  | fragment fragment next inner aligned declared =>
      exact .fragment fragment next inner aligned (declared.trans (by rw [length]))

/-- A packet whose headers announce its payload shows what they say. -/
theorem view?_announced {fields : Ipv6Fields} {fragment : Option FragmentHeader}
    {protocol : UpperProtocol} {payload : Bytes} (version : fields.version = 6)
    (announced : Ipv6Datagram.Announced fields protocol payload fragment) :
    view? ⟨.inet6, fields.encode, fragment.map FragmentHeader.encode, payload⟩ =
      some (PacketView.ofIpv6 ⟨fields, fragment, protocol, payload⟩) := by
  cases announced with
  | plain next declared => exact OutboundPacket.view?_plain _ _ _ version declared next
  | fragment fragment next inner aligned declared =>
      exact OutboundPacket.view?_fragment _ _ _ _ version declared next inner aligned

/-- What becomes of a packet within IPv6 has the header that was read, with other addresses, and the
payload under them. -/
theorem packet_eq {table : MappingTable} {datagram : Ipv6Datagram} {outbound : OutboundPacket}
    (ok : packet table datagram = .ok outbound) :
    ∃ source destination payload,
      table.sixToSix datagram.fields.source datagram.fields.destination =
        .ok (source, destination) ∧
      (PacketView.ofIpv6 datagram).convert .sixToSix ⟨.v6 source, .v6 destination⟩ =
        .ok payload ∧
      outbound = ⟨.inet6,
        { datagram.fields with source := source, destination := destination }.encode,
        datagram.fragment.map FragmentHeader.encode, payload⟩ := by
  unfold packet at ok
  split at ok
  next => cases ok
  next source destination mapped =>
    rw [convertPayload_eq] at ok
    cases converted : (PacketView.ofIpv6 datagram).convert .sixToSix
        ⟨.v6 source, .v6 destination⟩ with
    | error reason => rw [converted] at ok; cases ok
    | ok payload =>
        rw [converted] at ok
        cases ok
        exact ⟨source, destination, payload, mapped, converted, rfl⟩

/-- **The packet that a packet within IPv6 becomes** is on the way that the table leads it, and
shows what it should. -/
theorem of_packet {table : MappingTable} {datagram : Ipv6Datagram} {outbound : OutboundPacket}
    (sound : datagram.Sound)
    (chosen : table.classify datagram.fields.source datagram.fields.destination = some .sixToSix)
    (ok : packet table datagram = .ok outbound) :
    ∃ after payload,
      table.Leads .sixToSix (PacketView.ofIpv6 datagram).endpoints after ∧
      (PacketView.ofIpv6 datagram).convert .sixToSix after = .ok payload ∧
      outbound.family = .inet6 ∧
      ∀ drawn, view? outbound =
        some ((PacketView.ofIpv6 datagram).whole .sixToSix after drawn payload) := by
  obtain ⟨source, destination, payload, mapped, converted, rfl⟩ := packet_eq ok
  refine ⟨_, payload, .sixToSix chosen mapped, converted, rfl, fun drawn => ?_⟩
  have announced := announced_readdressed sound source destination
    (PacketView.length_convert rfl rfl converted)
  exact view?_announced sound.version announced

/-- A packet that the table leads within IPv6 becomes one if its payload can be converted. -/
theorem exists_packet {table : MappingTable} {datagram : Ipv6Datagram} {after : Endpoints}
    {payload : Bytes} (leads : table.Leads .sixToSix (PacketView.ofIpv6 datagram).endpoints after)
    (converted : (PacketView.ofIpv6 datagram).convert .sixToSix after = .ok payload) :
    ∃ outbound, packet table datagram = .ok outbound := by
  cases leads with
  | sixToSix chosen mapped =>
      unfold packet
      rw [mapped]
      simp only [convertPayload_eq, converted]
      exact ⟨_, rfl⟩

end SixToSix

end FamilyGateway
