import FamilyGateway.Checksum

/-!
# ICMP messages

Both versions of ICMP share one layout: type, code, checksum, four bytes whose
meaning depends on the type, and data. A message of fewer than eight bytes is none.
-/

set_option autoImplicit false

namespace FamilyGateway

/-- Why an ICMP message is refused. -/
inductive IcmpError where
  /-- The message has too few bytes, namely this many. -/
  | truncated (length : Nat)
  /-- An ICMP message for IPv4 of a type that has no counterpart. -/
  | unsupported (type : UInt8)
  /-- An ICMP message for IPv6 of a type that has no counterpart. -/
  | unsupportedV6 (type : UInt8)
  deriving DecidableEq, Repr

/-- What is reported about a refused message. -/
def IcmpError.message : IcmpError → String
  | truncated length => s!"ICMP message too short ({length} bytes)"
  | unsupported type => s!"ICMP type {type} is not translated"
  | unsupportedV6 type => s!"ICMPv6 type {type} is not translated"

/-- An ICMP message of either version. -/
structure IcmpMessage where
  type : UInt8
  code : UInt8
  checksum : UInt16
  /-- The four bytes after the checksum. -/
  parameter : UInt32
  data : Bytes
  deriving DecidableEq, Repr

namespace IcmpMessage

/-- Length of a message without data. -/
def headerLength : Nat := 8

/-- The bytes of a message. -/
def encode (message : IcmpMessage) : Bytes :=
  [message.type, message.code] ++ Wire.bytes16 message.checksum ++
    Wire.bytes32 message.parameter ++ message.data

/-- The message that some bytes are. -/
def read : Bytes → Except IcmpError IcmpMessage
  | type :: code :: c1 :: c2 :: p1 :: p2 :: p3 :: p4 :: data =>
    .ok ⟨type, code, Wire.word c1 c2, Wire.long p1 p2 p3 p4, data⟩
  | short => .error (.truncated short.length)

@[simp] theorem read_encode (message : IcmpMessage) : read message.encode = .ok message := by
  simp [read, encode, Wire.bytes16, Wire.bytes32]

/-- The first word of a message: its type over its code. -/
def typeWord (message : IcmpMessage) : UInt32 :=
  (Wire.word message.type message.code).toUInt32

end IcmpMessage

namespace Icmp

/-! ## Types and codes -/

/-- Echo reply of ICMP for IPv4. -/
def echoReply : UInt8 := 0

/-- Destination unreachable of ICMP for IPv4. -/
def unreachable : UInt8 := 3

/-- The code of an unreachable message that says that fragmentation is needed. -/
def fragmentationNeeded : UInt8 := 4

/-- Echo request of ICMP for IPv4. -/
def echoRequest : UInt8 := 8

/-- Packet too big of ICMP for IPv6. -/
def packetTooBig : UInt8 := 2

/-- Echo request of ICMP for IPv6. -/
def echoRequestV6 : UInt8 := 128

/-- Echo reply of ICMP for IPv6. -/
def echoReplyV6 : UInt8 := 129

end Icmp

end FamilyGateway
