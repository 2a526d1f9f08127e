import FamilyGateway.Packet.Protocol
import FamilyGateway.Translator.DropReason

/-!
# Transport checksums under new addresses

The checksums of TCP, UDP and ICMP for IPv6 cover the addresses of the packet, so a
segment whose addresses are replaced needs a new one. It is obtained from the stored
checksum and the two sums of addresses alone, and therefore stays as right or as wrong
as it was.

UDP may leave its checksum out over IPv4, by storing zero, and may not over IPv6. A
missing checksum is computed in full on the way from IPv4 to IPv6, which needs the whole
datagram. A computed UDP checksum of zero is stored as 0xffff, its other form.
-/

set_option autoImplicit false

namespace FamilyGateway

/-- The two addresses of a packet. -/
structure Endpoints where
  source : Address
  destination : Address
  deriving DecidableEq, Repr

/-- The sum of the words of both addresses. -/
def Endpoints.sum (endpoints : Endpoints) : UInt32 :=
  Checksum.addressPairSum endpoints.source endpoints.destination

namespace UpperProtocol

/-- Where the checksum stands in a segment. -/
def checksumOffset : UpperProtocol → Nat
  | tcp => 16
  | udp => 6
  | icmp => 2

/-- The part that is cut short when a segment ends before its checksum. -/
def headerPart : UpperProtocol → PacketPart
  | tcp => .tcpHeader
  | udp => .udpHeader
  | icmp => .icmpv6Header

end UpperProtocol

namespace Segment

/-- The checksum stored at an offset, if the segment reaches that far. -/
def checksumAt? (offset : Nat) (segment : Bytes) : Option UInt16 :=
  match segment.drop offset with
  | first :: second :: _ => some (Wire.word first second)
  | _ => none

/-- The segment with another checksum at an offset. -/
def putChecksum (offset : Nat) (checksum : UInt16) (segment : Bytes) : Bytes :=
  segment.take offset ++ Wire.bytes16 checksum ++ segment.drop (offset + 2)

/-- The form in which a protocol stores a checksum. -/
def storedForm (protocol : UpperProtocol) (checksum : UInt16) : UInt16 :=
  if protocol = .udp ∧ checksum = 0 then 0xffff else checksum

/-- The segment as it must look once its addresses are replaced. `fragmented` says that the segment
is not its whole datagram. An empty segment has no checksum and stays as it is. -/
def readdress (protocol : UpperProtocol) (before after : Endpoints) (fragmented : Bool)
    (segment : Bytes) : Except DropReason Bytes :=
  let offset := protocol.checksumOffset
  if segment = [] then .ok segment
  else
    match checksumAt? offset segment with
    | none => .error (.truncated protocol.headerPart)
    | some stored =>
      if protocol = .udp ∧ stored = 0 then
        if before.source.family = .inet ∧ after.source.family = .inet6 then
          if fragmented then .error .zeroUdpChecksum
          else
            match Checksum.upperLayer after.source after.destination
                (UpperProtocol.udp.number after.source.family) segment with
            | .ok checksum => .ok (putChecksum offset (storedForm protocol checksum) segment)
            | .error error => .error (.checksum error)
        else .ok segment
      else
        let checksum := Checksum.adjust stored before.sum after.sum
        .ok (putChecksum offset (storedForm protocol checksum) segment)

end Segment

end FamilyGateway
