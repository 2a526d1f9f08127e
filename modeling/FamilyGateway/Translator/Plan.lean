import FamilyGateway.Translator.FourToSix
import FamilyGateway.Translator.SixToFour
import FamilyGateway.Translator.SixToSix

/-!
# What is to be done with a packet

The first half of the treatment of a packet looks at the packet and the mapping table
only. It either drops the packet or decides what is to be done, and changes nothing.
All checks are made here, so that carrying out a plan cannot fail.
-/

set_option autoImplicit false

namespace FamilyGateway

/-- What is to be done with a packet. -/
inductive Plan where
  /-- The packet is an ICMP error message and ends here, perhaps with a report on a path. -/
  | absorb (report : Option Icmp.Report)
  /-- The packet is a fragmentation-needed message that quotes too little to be of use. -/
  | absorbUnquoted
  /-- The packet crosses to IPv6. `declared` is the packet up to its declared length. -/
  | toIpv6 (sender : Ipv4Address) (declared : Bytes) (crossing : FourToSix)
  /-- The packet crosses to IPv4. `arrived` is the packet as it arrived. -/
  | toIpv4 (sender : Ipv6Address) (arrived : Bytes) (crossing : SixToFour)
  /-- The packet stays in IPv6 and becomes this one. -/
  | withinIpv6 (packet : OutboundPacket)
  deriving Repr

namespace Plan

/-! ## Packets from the IPv4 side -/

/-- The plan for a packet that crosses to IPv6. -/
def forwardIpv4 (table : MappingTable) (packet : Bytes) (datagram : Ipv4Datagram)
    (protocol : UpperProtocol) : Except DropReason Plan :=
  match FourToSix.ofDatagram table datagram protocol with
  | .error reason => .error reason
  | .ok crossing =>
    .ok (.toIpv6 datagram.fields.source (packet.take datagram.fields.totalLength.toNat) crossing)

/-- The plan for an ICMP packet. -/
def ofIcmp (table : MappingTable) (packet : Bytes) (datagram : Ipv4Datagram) :
    Except DropReason Plan :=
  if datagram.isFragment then .error .fragmentedIcmp
  else
    match Icmp.advise datagram.payload with
    | .error error => .error (.icmp error)
    | .ok (.discard report) => .ok (.absorb report)
    | .ok .discardUnquoted => .ok .absorbUnquoted
    | .ok .forward => forwardIpv4 table packet datagram .icmp

/-- The plan for a packet from the IPv4 side. -/
def ofIpv4 (table : MappingTable) (packet : Bytes) : Except DropReason Plan :=
  match Ipv4Datagram.read packet with
  | .error reason => .error reason
  | .ok datagram =>
    if maxDatagram < datagram.fields.fragmentOffset.toNat + datagram.payload.length then
      .error .oversized
    else
      match UpperProtocol.ofNumber? .inet datagram.fields.protocol with
      | none => .error (.protocol datagram.fields.protocol)
      | some .icmp => ofIcmp table packet datagram
      | some protocol => forwardIpv4 table packet datagram protocol

/-! ## Packets from the IPv6 side -/

/-- Whether a packet is a packet-too-big message in one piece. Such a packet is for the gateway,
whatever its addresses are. -/
def isPacketTooBig (datagram : Ipv6Datagram) : Bool :=
  datagram.protocol = .icmp && datagram.fragment.isNone &&
    datagram.payload.head? = some Icmp.packetTooBig

/-- The plan for a packet that crosses to IPv4. -/
def forwardIpv6 (table : MappingTable) (packet : Bytes) (datagram : Ipv6Datagram) :
    Except DropReason Plan :=
  match SixToFour.ofDatagram table datagram with
  | .error reason => .error reason
  | .ok crossing => .ok (.toIpv4 datagram.fields.source packet crossing)

/-- The plan for a packet from the IPv6 side. -/
def ofIpv6 (table : MappingTable) (packet : Bytes) : Except DropReason Plan :=
  match Ipv6Datagram.read packet with
  | .error reason => .error reason
  | .ok datagram =>
    if isPacketTooBig datagram then
      match Icmp.readPacketTooBig datagram.payload with
      | .error error => .error (.icmp error)
      | .ok report => .ok (.absorb (some report))
    else
      match table.classify datagram.fields.source datagram.fields.destination with
      | some .sixToFour => forwardIpv6 table packet datagram
      | some .sixToSix =>
        match SixToSix.packet table datagram with
        | .error reason => .error reason
        | .ok outbound => .ok (.withinIpv6 outbound)
      | none =>
        .error (.unclassified datagram.fields.source datagram.fields.destination)

/-- The plan for a packet of a family. -/
def ofPacket (table : MappingTable) : Family → Bytes → Except DropReason Plan
  | .inet, packet => ofIpv4 table packet
  | .inet6, packet => ofIpv6 table packet

end Plan

end FamilyGateway
