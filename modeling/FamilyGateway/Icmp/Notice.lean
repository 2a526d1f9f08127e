import FamilyGateway.Icmp.Message
import FamilyGateway.PathMtu
import FamilyGateway.Packet.Ipv4Header
import FamilyGateway.Packet.Ipv6Header
import FamilyGateway.Packet.Outbound
import FamilyGateway.Packet.Protocol

/-!
# Notices about packets that do not fit

When a packet has to be split, its sender is told the size that would have fitted:
by "fragmentation needed" over IPv4, by "packet too big" over IPv6. Each notice
quotes the packet it is about, the former its header and eight bytes, the latter as
much of it as leaves the notice within the smallest IPv6 MTU.
-/

set_option autoImplicit false

namespace FamilyGateway.Icmp

/-- Time to live and hop limit of a notice. -/
def noticeHops : UInt8 := 64

/-- How much of the payload of a packet an ICMP error for IPv4 quotes. -/
def quotedPayload : Nat := 8

/-- What a fragmentation-needed notice quotes of a packet: its header, as long as its first byte
says, and eight bytes. -/
def ipv4Quote (packet : Bytes) : Bytes :=
  let headerLength := match packet with
    | [] => Ipv4Fields.byteLength
    | first :: _ => (first % 16).toNat * 4
  packet.take (headerLength + quotedPayload)

/-- The ICMP message of a fragmentation-needed notice. -/
def fragmentationNeededMessage (packet : Bytes) (mtu : UInt16) : IcmpMessage :=
  let blank : IcmpMessage :=
    { type := unreachable
      code := fragmentationNeeded
      checksum := 0
      parameter := (max mtu (PathMtu.floor .inet)).toUInt32
      data := ipv4Quote packet }
  { blank with checksum := Checksum.ofSum (Checksum.wordSum blank.encode) }

/-- The notice to the sender of an IPv4 packet that it should send at most `mtu` bytes. -/
def fragmentationNeededNotice (packet : Bytes) (source destination : Ipv4Address) (mtu : UInt16) :
    OutboundPacket :=
  let message := (fragmentationNeededMessage packet mtu).encode
  let header : Ipv4Header :=
    { source := source
      destination := destination
      protocol := UpperProtocol.icmp.number .inet
      timeToLive := noticeHops
      identification := 0
      dontFragment := false
      moreFragments := false
      fragmentOffset := 0 }
  { family := .inet, header := header.emit message.length, fragment := none, payload := message }

/-- How much of a packet a packet-too-big notice can quote: what the headers leave free of the
smallest IPv6 MTU. -/
def ipv6QuoteRoom : Nat :=
  (PathMtu.floor .inet6).toNat - Ipv6Fields.byteLength - IcmpMessage.headerLength

/-- The ICMP message of a packet-too-big notice between two addresses. -/
def packetTooBigMessage (packet : Bytes) (source destination : Ipv6Address) (mtu : UInt32) :
    IcmpMessage :=
  let blank : IcmpMessage :=
    { type := packetTooBig
      code := 0
      checksum := 0
      parameter := max mtu (PathMtu.floor .inet6).toUInt32
      data := packet.take ipv6QuoteRoom }
  let pseudo := Checksum.combine
    (Checksum.addressPairSum (.v6 source) (.v6 destination))
    (Checksum.trailerSum (UpperProtocol.icmp.number .inet6) (UInt32.ofNat blank.encode.length))
  { blank with
    checksum := Checksum.ofSum (Checksum.combine pseudo (Checksum.wordSum blank.encode)) }

/-- The notice to the sender of an IPv6 packet that it should send at most `mtu` bytes. -/
def packetTooBigNotice (packet : Bytes) (source destination : Ipv6Address) (mtu : UInt32) :
    OutboundPacket :=
  let message := (packetTooBigMessage packet source destination mtu).encode
  let header : Ipv6Header :=
    { source := source
      destination := destination
      nextHeader := UpperProtocol.icmp.number .inet6
      hopLimit := noticeHops }
  { family := .inet6, header := header.emit message.length, fragment := none, payload := message }

end FamilyGateway.Icmp
