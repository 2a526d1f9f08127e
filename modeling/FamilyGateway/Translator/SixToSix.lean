import FamilyGateway.Packet.Outbound
import FamilyGateway.Translator.Inbound
import FamilyGateway.Translator.Transport

/-!
# Within IPv6

A packet between a mapped IPv6 address and any other keeps its size and its headers.
One address is replaced, the checksum follows, and the reserved bits of a Fragment
header are cleared.
-/

set_option autoImplicit false

namespace FamilyGateway.SixToSix

/-- The payload under the new addresses. Only the first fragment of a datagram holds a checksum. -/
def convertPayload (datagram : Ipv6Datagram) (source destination : Ipv6Address) :
    Except DropReason Bytes :=
  if datagram.fragmentOffset ≠ 0 then .ok datagram.payload
  else
    Segment.readdress datagram.protocol
      ⟨.v6 datagram.fields.source, .v6 datagram.fields.destination⟩
      ⟨.v6 source, .v6 destination⟩ datagram.isFragment datagram.payload

/-- The packet that a packet within IPv6 becomes. -/
def packet (table : MappingTable) (datagram : Ipv6Datagram) : Except DropReason OutboundPacket :=
  match table.sixToSix datagram.fields.source datagram.fields.destination with
  | .error error => .error (.mapping error)
  | .ok (source, destination) => do
    let payload ← convertPayload datagram source destination
    .ok
      { family := .inet6
        header := { datagram.fields with source := source, destination := destination }.encode
        fragment := datagram.fragment.map FragmentHeader.encode
        payload := payload }

end FamilyGateway.SixToSix
