import FamilyGateway.Address.Basic

/-!
# Packets to be sent

A packet is kept in the pieces in which it was built, so that the payload of a
forwarded packet never has to be copied behind its new header. What is sent is the
concatenation of the pieces.
-/

set_option autoImplicit false

namespace FamilyGateway

/-- A packet ready to be sent. -/
structure OutboundPacket where
  family : Family
  header : Bytes
  /-- The eight bytes of a Fragment header, if there is one. -/
  fragment : Option Bytes
  payload : Bytes
  deriving DecidableEq, Repr

namespace OutboundPacket

/-- The pieces in sending order: header, Fragment header if there is one, payload. -/
def segments (packet : OutboundPacket) : List Bytes :=
  [packet.header] ++ packet.fragment.toList ++ [packet.payload]

/-- The bytes that are sent. -/
def bytes (packet : OutboundPacket) : Bytes := packet.segments.flatten

/-- How many bytes are sent. -/
def length (packet : OutboundPacket) : Nat :=
  packet.header.length + (packet.fragment.getD []).length + packet.payload.length

/-- Whether there is nothing to send. -/
def isEmpty (packet : OutboundPacket) : Bool := packet.length == 0

/-- A packet without a Fragment header is its header and its payload. -/
theorem bytes_of_plain (family : Family) (header payload : Bytes) :
    bytes ⟨family, header, none, payload⟩ = header ++ payload := by
  simp [bytes, segments]

theorem length_bytes (packet : OutboundPacket) : packet.bytes.length = packet.length := by
  cases fragment : packet.fragment <;> simp [bytes, segments, length, fragment, Nat.add_assoc]

end OutboundPacket

end FamilyGateway
