import FamilyGateway.Icmp.Message
import FamilyGateway.Mapping.Table

/-!
# Why a packet is dropped

Every packet that is not accepted is dropped for one reason, and the reason is a
cause with its data; the text that people are shown is made from it here.
-/

set_option autoImplicit false

namespace FamilyGateway

/-- A part of a packet that can be cut short. -/
inductive PacketPart where
  | ipv4Packet
  | ipv4Header
  | ipv6Packet
  | fragmentHeader
  | tcpHeader
  | udpHeader
  | icmpv6Header
  deriving DecidableEq, Repr

/-- The name of a part. -/
def PacketPart.name : PacketPart → String
  | ipv4Packet => "IPv4 packet"
  | ipv4Header => "IPv4 header"
  | ipv6Packet => "IPv6 packet"
  | fragmentHeader => "IPv6 fragment header"
  | tcpHeader => "TCP header"
  | udpHeader => "UDP header"
  | icmpv6Header => "ICMPv6 header"

/-- Why a packet is dropped. -/
inductive DropReason where
  | truncated (part : PacketPart)
  | wrongVersion (version : UInt8)
  /-- The IPv4 header is longer than the fixed fields. -/
  | ipv4Options (headerLength : Nat)
  | extensionHeader (number : UInt8)
  | protocol (number : UInt8)
  | fragmentedIcmp
  /-- A UDP checksum is missing, and the fragment is not all that it covers. -/
  | zeroUdpChecksum
  /-- The datagram would be larger than a length field can say. -/
  | oversized
  /-- There is no way for a packet between these addresses. -/
  | unclassified (source destination : Ipv6Address)
  | mapping (error : MappingError)
  | icmp (error : IcmpError)
  | checksum (error : ChecksumError)
  deriving DecidableEq, Repr

/-- What is reported about a dropped packet. -/
def DropReason.message : DropReason → String
  | truncated part => s!"truncated {part.name}"
  | wrongVersion version => s!"unexpected IP version {version}"
  | ipv4Options headerLength =>
    s!"IPv4 options are not supported (header length {headerLength})"
  | extensionHeader number => s!"unsupported IPv6 extension header {number}"
  | protocol number => s!"unsupported upper-layer protocol {number}"
  | fragmentedIcmp => "fragmented ICMP is not translated"
  | zeroUdpChecksum => "zero UDP checksum on a fragment cannot be completed"
  | oversized => "fragment extends past the maximum datagram size"
  | unclassified source destination =>
    s!"no translation direction for {source.text} -> {destination.text}"
  | mapping error => error.message
  | icmp error => error.message
  | checksum error => error.message

end FamilyGateway
