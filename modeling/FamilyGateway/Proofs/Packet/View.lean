import FamilyGateway.Packet.Outbound
import FamilyGateway.Proofs.Packet.Reading
import FamilyGateway.Translator.Transport

/-!
# What a receiver reads off a packet

A packet that arrives and a packet that is sent are compared by what their headers
say to whoever receives them: endpoints, protocol, hop limit, identification, and
which part of a datagram the payload is. This is a `PacketView`, the same for both
families, and it is read off the bytes of a packet (`PacketView.read?`).

A packet that is put together with a header of its own family shows what was put
into the header (`OutboundPacket.view?_ipv4`, `OutboundPacket.view?_plain`,
`OutboundPacket.view?_fragment`).
-/

set_option autoImplicit false

namespace FamilyGateway

/-- What the headers of a packet say, and its payload. -/
structure PacketView where
  endpoints : Endpoints
  protocol : UpperProtocol
  hopLimit : UInt8
  /-- The identification of the datagram. An IPv6 packet without a Fragment header has none. -/
  identification : Option UInt32
  /-- Whether routers must leave the packet whole, as they must every IPv6 packet. -/
  dontFragment : Bool
  /-- How many bytes of the datagram stand before the payload. -/
  offset : Nat
  moreFragments : Bool
  payload : Bytes
  deriving DecidableEq, Repr

namespace PacketView

/-- Whether the packet is one of several fragments of its datagram. -/
def isFragment (view : PacketView) : Bool := view.moreFragments || view.offset != 0

/-- What an IPv4 packet shows. -/
def ofIpv4 (datagram : Ipv4Datagram) (protocol : UpperProtocol) : PacketView where
  endpoints := ⟨.v4 datagram.fields.source, .v4 datagram.fields.destination⟩
  protocol := protocol
  hopLimit := datagram.fields.timeToLive
  identification := some datagram.fields.identification.toUInt32
  dontFragment := datagram.fields.dontFragment
  offset := datagram.fields.fragmentOffset.toNat
  moreFragments := datagram.fields.moreFragments
  payload := datagram.payload

/-- What an IPv6 packet shows. -/
def ofIpv6 (datagram : Ipv6Datagram) : PacketView where
  endpoints := ⟨.v6 datagram.fields.source, .v6 datagram.fields.destination⟩
  protocol := datagram.protocol
  hopLimit := datagram.fields.hopLimit
  identification := datagram.fragment.map FragmentHeader.identification
  dontFragment := true
  offset := datagram.fragmentOffset.toNat
  moreFragments := datagram.moreFragments
  payload := datagram.payload

/-- An offset as a number is zero exactly if the offset is. -/
theorem bne_zero_eq_toNat (offset : UInt16) : (offset != 0) = (offset.toNat != 0) := by
  rw [Bool.eq_iff_iff, bne_iff_ne, bne_iff_ne, ne_eq, ← UInt16.toNat_inj]
  rfl

theorem isFragment_ofIpv4 (datagram : Ipv4Datagram) (protocol : UpperProtocol) :
    datagram.isFragment = (ofIpv4 datagram protocol).isFragment := by
  rw [Ipv4Datagram.isFragment, bne_zero_eq_toNat]
  rfl

theorem isFragment_ofIpv6 (datagram : Ipv6Datagram) :
    datagram.isFragment = (ofIpv6 datagram).isFragment := by
  obtain ⟨fields, fragment, protocol, payload⟩ := datagram
  cases fragment with
  | none => rfl
  | some header =>
      show header.isFragment = (header.moreFragments || header.offset.toNat != 0)
      rw [FragmentHeader.isFragment, Bool.or_comm, bne_zero_eq_toNat]

/-- What a packet of a family shows, if it can be read and its protocol is known. -/
def read? : Family → Bytes → Option PacketView
  | .inet, packet =>
    match Ipv4Datagram.read packet with
    | .error _ => none
    | .ok datagram =>
      (UpperProtocol.ofNumber? .inet datagram.fields.protocol).map (ofIpv4 datagram)
  | .inet6, packet =>
    match Ipv6Datagram.read packet with
    | .error _ => none
    | .ok datagram => some (ofIpv6 datagram)

theorem read?_inet {packet : Bytes} {view : PacketView} (read : read? .inet packet = some view) :
    ∃ datagram protocol, Ipv4Datagram.read packet = .ok datagram ∧
      UpperProtocol.ofNumber? .inet datagram.fields.protocol = some protocol ∧
      view = ofIpv4 datagram protocol := by
  simp only [read?] at read
  split at read
  next => cases read
  next datagram ok =>
    obtain ⟨protocol, named, same⟩ := Option.map_eq_some_iff.mp read
    exact ⟨datagram, protocol, ok, named, same.symm⟩

theorem read?_inet6 {packet : Bytes} {view : PacketView}
    (read : read? .inet6 packet = some view) :
    ∃ datagram, Ipv6Datagram.read packet = .ok datagram ∧ view = ofIpv6 datagram := by
  simp only [read?] at read
  split at read
  next => cases read
  next datagram ok =>
    cases read
    exact ⟨datagram, ok, rfl⟩

theorem read?_of_ipv4 {packet : Bytes} {datagram : Ipv4Datagram} {protocol : UpperProtocol}
    (read : Ipv4Datagram.read packet = .ok datagram)
    (named : UpperProtocol.ofNumber? .inet datagram.fields.protocol = some protocol) :
    read? .inet packet = some (ofIpv4 datagram protocol) := by
  simp only [read?, read, named, Option.map_some]

theorem read?_of_ipv6 {packet : Bytes} {datagram : Ipv6Datagram}
    (read : Ipv6Datagram.read packet = .ok datagram) :
    read? .inet6 packet = some (ofIpv6 datagram) := by
  simp only [read?, read]

/-- The offset of a packet that can be read is a multiple of eight. -/
theorem offset_aligned {family : Family} {packet : Bytes} {view : PacketView}
    (read : read? family packet = some view) : view.offset % 8 = 0 := by
  cases family with
  | inet =>
      obtain ⟨datagram, protocol, _, _, rfl⟩ := read?_inet read
      exact datagram.offset_aligned
  | inet6 =>
      obtain ⟨datagram, ok, rfl⟩ := read?_inet6 read
      exact (Ipv6Datagram.sound ok).offset_aligned

theorem length_payload {family : Family} {packet : Bytes} {view : PacketView}
    (read : read? family packet = some view) : view.payload.length ≤ 65535 := by
  cases family with
  | inet =>
      obtain ⟨datagram, protocol, ok, _, rfl⟩ := read?_inet read
      have declared := (Ipv4Datagram.sound ok).declared
      have bound := datagram.fields.totalLength.toNat_lt
      show datagram.payload.length ≤ 65535
      omega
  | inet6 =>
      obtain ⟨datagram, ok, rfl⟩ := read?_inet6 read
      exact (Ipv6Datagram.sound ok).length_payload

/-- Both endpoints of a packet that can be read are of the family of the packet. -/
theorem families {family : Family} {packet : Bytes} {view : PacketView}
    (read : read? family packet = some view) :
    view.endpoints.source.family = family ∧ view.endpoints.destination.family = family := by
  cases family with
  | inet =>
      obtain ⟨datagram, protocol, _, _, rfl⟩ := read?_inet read
      exact ⟨rfl, rfl⟩
  | inet6 =>
      obtain ⟨datagram, _, rfl⟩ := read?_inet6 read
      exact ⟨rfl, rfl⟩

end PacketView

/-! ## Packets that are sent -/

namespace OutboundPacket

/-- What a packet shows to whoever receives it. -/
def view? (packet : OutboundPacket) : Option PacketView :=
  PacketView.read? packet.family packet.bytes

/-- An IPv4 packet shows what its header was made of. -/
theorem view?_ipv4 (header : Ipv4Header) (protocol : UpperProtocol) (payload : Bytes)
    (named : header.protocol = protocol.number .inet)
    (aligned : header.fragmentOffset.toNat % 8 = 0) (fits : 20 + payload.length < 65536) :
    view? ⟨.inet, header.emit payload.length, none, payload⟩ =
      some
        { endpoints := ⟨.v4 header.source, .v4 header.destination⟩
          protocol := protocol
          hopLimit := header.timeToLive
          identification := some header.identification.toUInt32
          dontFragment := header.dontFragment
          offset := header.fragmentOffset.toNat
          moreFragments := header.moreFragments
          payload := payload } := by
  have number : (header.fields payload.length).protocol = protocol.number .inet := named
  obtain ⟨dont, more, offset⟩ := Ipv4Fields.read_flagWord
    (show (header.fields payload.length).flagsAndOffset = _ from rfl) aligned
  simp only [view?, bytes_of_plain, PacketView.read?, Ipv4Datagram.read_emit header payload fits,
    number, UpperProtocol.ofNumber?_number, Option.map_some, PacketView.ofIpv4, dont, more, offset]
  rfl

/-- An IPv6 packet without a Fragment header shows what its header says. -/
theorem view?_plain (fields : Ipv6Fields) (protocol : UpperProtocol) (payload : Bytes)
    (version : fields.version = 6) (declared : fields.payloadLength.toNat = payload.length)
    (next : fields.nextHeader = protocol.number .inet6) :
    view? ⟨.inet6, fields.encode, none, payload⟩ =
      some (PacketView.ofIpv6 ⟨fields, none, protocol, payload⟩) := by
  simp only [view?, bytes_of_plain, PacketView.read?,
    Ipv6Datagram.read_plain fields protocol payload version declared next]

/-- An IPv6 packet with a Fragment header shows what its headers say. -/
theorem view?_fragment (fields : Ipv6Fields) (fragment : FragmentHeader)
    (protocol : UpperProtocol) (payload : Bytes) (version : fields.version = 6)
    (declared : fields.payloadLength.toNat = 8 + payload.length)
    (next : fields.nextHeader = fragmentNumber)
    (inner : fragment.nextHeader = protocol.number .inet6)
    (aligned : fragment.offset.toNat % 8 = 0) :
    view? ⟨.inet6, fields.encode, some fragment.encode, payload⟩ =
      some (PacketView.ofIpv6 ⟨fields, some fragment, protocol, payload⟩) := by
  have bytes : OutboundPacket.bytes ⟨.inet6, fields.encode, some fragment.encode, payload⟩ =
      fields.encode ++ (fragment.encode ++ payload) := by
    simp [OutboundPacket.bytes, segments]
  simp only [view?, bytes, PacketView.read?,
    Ipv6Datagram.read_fragment fields fragment protocol payload version declared next inner
      aligned]

/-- The packets of a family among those that are sent can all be read, and show these views in
this order. -/
def Show (family : Family) (packets : List OutboundPacket) (views : List PacketView) : Prop :=
  (packets.filter fun packet => packet.family = family).map view? = views.map some

/-- Each of the packets that show some views shows one of them. -/
theorem exists_of_shown {packets : List OutboundPacket} {views : List PacketView}
    (shown : packets.map view? = views.map some) :
    ∀ packet ∈ packets, ∃ view ∈ views, view? packet = some view := by
  intro packet member
  have seen : view? packet ∈ views.map some := shown ▸ List.mem_map_of_mem member
  obtain ⟨view, listed, same⟩ := List.mem_map.mp seen
  exact ⟨view, listed, same.symm⟩

end OutboundPacket

end FamilyGateway
