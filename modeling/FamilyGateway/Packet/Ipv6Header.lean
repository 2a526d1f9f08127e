import FamilyGateway.Address.Basic

/-!
# IPv6 headers

`Ipv6Fields` holds the fields of the fixed forty bytes as they are sent, so writing
and reading are inverse (`read?_encode`). `Ipv6Header` holds what the gateway
decides about a packet it builds itself: traffic class and flow label are zero.
-/

set_option autoImplicit false

namespace FamilyGateway

/-! ## The fields on the wire -/

/-- The forty bytes of an IPv6 header, field by field. -/
structure Ipv6Fields where
  /-- Four bits of version, eight of traffic class, twenty of flow label. -/
  versionClassFlow : UInt32
  payloadLength : UInt16
  nextHeader : UInt8
  hopLimit : UInt8
  source : Ipv6Address
  destination : Ipv6Address
  deriving DecidableEq, Repr

namespace Ipv6Fields

/-- Length of the header. -/
def byteLength : Nat := 40

/-- The forty bytes of the header. -/
def encode (fields : Ipv6Fields) : Bytes :=
  Wire.bytes32 fields.versionClassFlow ++ Wire.bytes16 fields.payloadLength ++
    [fields.nextHeader, fields.hopLimit] ++ fields.source.octets ++ fields.destination.octets

/-- Reads the header in front of some bytes, and returns what follows it. -/
def read? : Bytes → Option (Ipv6Fields × Bytes)
  | v1 :: v2 :: v3 :: v4 :: l1 :: l2 :: nextHeader :: hopLimit :: addresses => do
    let (source, addresses) ← Ipv6Address.read? addresses
    let (destination, rest) ← Ipv6Address.read? addresses
    some (⟨Wire.long v1 v2 v3 v4, Wire.word l1 l2, nextHeader, hopLimit, source, destination⟩,
      rest)
  | _ => none

@[simp] theorem read?_encode (fields : Ipv6Fields) (rest : Bytes) :
    read? (fields.encode ++ rest) = some (fields, rest) := by
  simp [read?, encode, Wire.bytes16, Wire.bytes32]

@[simp] theorem length_encode (fields : Ipv6Fields) : fields.encode.length = 40 := rfl

/-- The IP version. -/
def version (fields : Ipv6Fields) : UInt8 := (fields.versionClassFlow / 0x10000000).toUInt8

end Ipv6Fields

/-! ## The headers that are sent -/

/-- What the gateway decides about the header of an IPv6 packet. -/
structure Ipv6Header where
  source : Ipv6Address
  destination : Ipv6Address
  nextHeader : UInt8
  hopLimit : UInt8
  deriving DecidableEq, Repr

namespace Ipv6Header

/-- The wire fields of a header in front of `payloadLength` bytes. The payload length keeps its
low sixteen bits. -/
def fields (header : Ipv6Header) (payloadLength : Nat) : Ipv6Fields where
  versionClassFlow := 0x60000000
  payloadLength := UInt16.ofNat payloadLength
  nextHeader := header.nextHeader
  hopLimit := header.hopLimit
  source := header.source
  destination := header.destination

/-- The forty bytes of a header in front of `payloadLength` bytes. -/
def emit (header : Ipv6Header) (payloadLength : Nat) : Bytes :=
  (header.fields payloadLength).encode

end Ipv6Header

end FamilyGateway
