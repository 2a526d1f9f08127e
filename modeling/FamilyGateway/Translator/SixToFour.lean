import FamilyGateway.Icmp.Echo
import FamilyGateway.Packet.Outbound
import FamilyGateway.Translator.Fragmentation
import FamilyGateway.Translator.Inbound
import FamilyGateway.Translator.Transport

/-!
# From IPv6 to IPv4

The counterpart of the way from IPv4. A packet without a Fragment header asks routers
to leave it whole, as every IPv6 packet does; one with a Fragment header keeps the low
half of its identification. A packet that exceeds the path MTU towards its IPv4
destination is cut into fragments that may be cut again.
-/

set_option autoImplicit false

namespace FamilyGateway

/-- A packet on its way from IPv6 to IPv4. -/
structure SixToFour where
  source : Ipv4Address
  destination : Ipv4Address
  protocol : UpperProtocol
  timeToLive : UInt8
  /-- Identification over IPv6, if the packet has a Fragment header. -/
  identification : Option UInt32
  offset : UInt16
  moreFragments : Bool
  payload : Bytes
  deriving DecidableEq, Repr

namespace SixToFour

/-! ## Reading the packet -/

/-- The payload as IPv4 carries it. Only the first fragment of a datagram holds a checksum. -/
def convertPayload (datagram : Ipv6Datagram) (source destination : Ipv4Address) :
    Except DropReason Bytes :=
  if datagram.fragmentOffset ≠ 0 then .ok datagram.payload
  else
    match datagram.protocol with
    | .icmp =>
      match Checksum.pseudoHeaderSum (.v6 datagram.fields.source) (.v6 datagram.fields.destination)
          (UpperProtocol.icmp.number .inet6) (UInt32.ofNat datagram.payload.length) with
      | .error error => .error (.checksum error)
      | .ok sum =>
        match Icmp.toIpv4 sum datagram.payload with
        | .error error => .error (.icmp error)
        | .ok payload => .ok payload
    | protocol =>
      Segment.readdress protocol
        ⟨.v6 datagram.fields.source, .v6 datagram.fields.destination⟩
        ⟨.v4 source, .v4 destination⟩ datagram.isFragment datagram.payload

/-- The way of a packet that arrived. -/
def ofDatagram (table : MappingTable) (datagram : Ipv6Datagram) : Except DropReason SixToFour :=
  if datagram.protocol = .icmp ∧ datagram.isFragment then .error .fragmentedIcmp
  else if maxDatagram < datagram.fragmentOffset.toNat + datagram.payload.length then
    .error .oversized
  else
    match table.sixToFour datagram.fields.source datagram.fields.destination with
    | .error error => .error (.mapping error)
    | .ok (source, destination) => do
      let payload ← convertPayload datagram source destination
      .ok
        { source := source
          destination := destination
          protocol := datagram.protocol
          timeToLive := datagram.fields.hopLimit
          identification := datagram.fragment.map FragmentHeader.identification
          offset := datagram.fragmentOffset
          moreFragments := datagram.moreFragments
          payload := payload }

/-! ## Sending it -/

/-- How much payload a packet can carry on a path of the given MTU. -/
def room (mtu : UInt16) : Nat := mtu.toNat - Ipv4Fields.byteLength

/-- Whether the payload has to be cut for a path of the given MTU. -/
def isSplit (crossing : SixToFour) (mtu : UInt16) : Bool :=
  mtu.toNat < Ipv4Fields.byteLength + crossing.payload.length

/-- The size over IPv6 that is advertised to the sender for a path of the given MTU. -/
def advertisedMtu (mtu : UInt16) : UInt32 :=
  mtu.toUInt32 + UInt32.ofNat (Ipv6Fields.byteLength - Ipv4Fields.byteLength)

/-- The identification over IPv4. -/
def identificationOr (crossing : SixToFour) (drawn : UInt32) : UInt16 :=
  (crossing.identification.getD drawn).toUInt16

/-- The header of the packet for the whole payload. -/
def header (crossing : SixToFour) (drawn : UInt32) : Ipv4Header where
  source := crossing.source
  destination := crossing.destination
  protocol := crossing.protocol.number .inet
  timeToLive := crossing.timeToLive
  identification := crossing.identificationOr drawn
  dontFragment := crossing.identification.isNone
  moreFragments := crossing.moreFragments
  fragmentOffset := crossing.offset

/-- The packet for the whole payload. -/
def whole (crossing : SixToFour) (drawn : UInt32) : OutboundPacket where
  family := .inet
  header := (crossing.header drawn).emit crossing.payload.length
  fragment := none
  payload := crossing.payload

/-- The packet for one piece of the payload. -/
def fragment (crossing : SixToFour) (drawn : UInt32) (piece : Piece) : OutboundPacket :=
  let header := { crossing.header drawn with
    dontFragment := false
    moreFragments := !piece.last || crossing.moreFragments
    fragmentOffset := crossing.offset + UInt16.ofNat piece.start }
  { family := .inet
    header := header.emit piece.data.length
    fragment := none
    payload := piece.data }

/-- The packets that are sent on a path of the given MTU. -/
def packets (crossing : SixToFour) (mtu : UInt16) (drawn : UInt32) : List OutboundPacket :=
  if crossing.isSplit mtu then
    (Piece.cut (room mtu) 0 crossing.payload).map (crossing.fragment drawn)
  else
    [crossing.whole drawn]

end SixToFour

end FamilyGateway
