import FamilyGateway.Icmp.Echo
import FamilyGateway.Icmp.Feedback
import FamilyGateway.Packet.Outbound
import FamilyGateway.Translator.Fragmentation
import FamilyGateway.Translator.Inbound
import FamilyGateway.Translator.Transport

/-!
# From IPv4 to IPv6

A packet that crosses is described by what all its fragments have in common and by
its payload, whose checksum already fits the new addresses. How many packets it
becomes depends only on the path MTU towards its IPv6 destination: a payload that fits
is sent in one packet, with a Fragment header exactly if it was a fragment before, and
any other is cut into fragments that continue its offset.
-/

set_option autoImplicit false

namespace FamilyGateway

/-- A packet on its way from IPv4 to IPv6. -/
structure FourToSix where
  source : Ipv6Address
  destination : Ipv6Address
  protocol : UpperProtocol
  hopLimit : UInt8
  /-- Identification over IPv4. Zero counts as none. -/
  identification : UInt16
  offset : UInt16
  moreFragments : Bool
  payload : Bytes
  deriving DecidableEq, Repr

namespace FourToSix

/-! ## Reading the packet -/

/-- The payload as IPv6 carries it. Only the first fragment of a datagram holds a checksum. -/
def convertPayload (datagram : Ipv4Datagram) (protocol : UpperProtocol)
    (source destination : Ipv6Address) : Except DropReason Bytes :=
  if datagram.fields.fragmentOffset ≠ 0 then .ok datagram.payload
  else
    match protocol with
    | .icmp =>
      match Checksum.pseudoHeaderSum (.v6 source) (.v6 destination)
          (protocol.number .inet6) (UInt32.ofNat datagram.payload.length) with
      | .error error => .error (.checksum error)
      | .ok sum =>
        match Icmp.toIpv6 sum datagram.payload with
        | .error error => .error (.icmp error)
        | .ok payload => .ok payload
    | protocol =>
      Segment.readdress protocol
        ⟨.v4 datagram.fields.source, .v4 datagram.fields.destination⟩
        ⟨.v6 source, .v6 destination⟩ datagram.isFragment datagram.payload

/-- The way of a packet whose protocol can cross. -/
def ofDatagram (table : MappingTable) (datagram : Ipv4Datagram) (protocol : UpperProtocol) :
    Except DropReason FourToSix :=
  match table.fourToSix datagram.fields.source datagram.fields.destination with
  | .error error => .error (.mapping error)
  | .ok (source, destination) => do
    let payload ← convertPayload datagram protocol source destination
    .ok
      { source := source
        destination := destination
        protocol := protocol
        hopLimit := datagram.fields.timeToLive
        identification := datagram.fields.identification
        offset := datagram.fields.fragmentOffset
        moreFragments := datagram.fields.moreFragments
        payload := payload }

/-! ## Sending it -/

/-- What a Fragment header and the fixed header take of each packet. -/
def overhead : Nat := Ipv6Fields.byteLength + FragmentHeader.byteLength

/-- How much payload a packet can carry on a path of the given MTU. -/
def room (mtu : UInt16) : Nat := mtu.toNat - overhead

/-- Whether the payload has to be cut for a path of the given MTU. -/
def isSplit (crossing : FourToSix) (mtu : UInt16) : Bool := room mtu < crossing.payload.length

/-- The size over IPv4 that is advertised to the sender for a path of the given MTU. -/
def advertisedMtu (mtu : UInt16) : UInt16 :=
  UInt16.ofNat (mtu.toNat - (overhead - Ipv4Fields.byteLength))

/-- Whether the packet was a fragment when it arrived. -/
def isFragment (crossing : FourToSix) : Bool := crossing.moreFragments || crossing.offset != 0

/-- The identification over IPv6. -/
def identificationOr (crossing : FourToSix) (drawn : UInt32) : UInt32 :=
  if crossing.identification = 0 then drawn else crossing.identification.toUInt32

/-- The packet for the whole payload, without a Fragment header. -/
def whole (crossing : FourToSix) : OutboundPacket :=
  let header : Ipv6Header :=
    { source := crossing.source
      destination := crossing.destination
      nextHeader := crossing.protocol.number .inet6
      hopLimit := crossing.hopLimit }
  { family := .inet6
    header := header.emit crossing.payload.length
    fragment := none
    payload := crossing.payload }

/-- The packet for one piece of the payload. -/
def fragment (crossing : FourToSix) (identification : UInt32) (piece : Piece) : OutboundPacket :=
  let header : Ipv6Header :=
    { source := crossing.source
      destination := crossing.destination
      nextHeader := fragmentNumber
      hopLimit := crossing.hopLimit }
  let fragmentHeader : FragmentHeader :=
    { nextHeader := crossing.protocol.number .inet6
      offset := crossing.offset + UInt16.ofNat piece.start
      moreFragments := !piece.last || crossing.moreFragments
      identification := identification }
  { family := .inet6
    header := header.emit (FragmentHeader.byteLength + piece.data.length)
    fragment := some fragmentHeader.encode
    payload := piece.data }

/-- The packets that are sent on a path of the given MTU. -/
def packets (crossing : FourToSix) (mtu : UInt16) (drawn : UInt32) : List OutboundPacket :=
  let identification := crossing.identificationOr drawn
  if crossing.isSplit mtu then
    (Piece.cut (room mtu) 0 crossing.payload).map (crossing.fragment identification)
  else if crossing.isFragment then
    [crossing.fragment identification ⟨0, crossing.payload, true⟩]
  else
    [crossing.whole]

end FourToSix

end FamilyGateway
