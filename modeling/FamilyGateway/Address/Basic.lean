import FamilyGateway.Wire

/-!
# Addresses of the two families

An IPv6 address is kept as the ninety-six bits that a mapping prefix can fix and
the thirty-two low bits that can carry an IPv4 address. In this shape placing an
IPv4 address under a prefix (`Ipv6Address.embed`), taking it out again
(`Ipv6Address.low`) and comparing the prefix of an address are single field
operations, and the eight groups of the text form are a view (`groups`).
-/

set_option autoImplicit false

namespace FamilyGateway

/-! ## Families -/

/-- The network-layer family of a packet or an address. -/
inductive Family where
  | inet
  | inet6
  deriving DecidableEq, Repr, Inhabited

namespace Family

/-- The name under which messages and routing tools speak of a family. -/
def name : Family → String
  | inet => "inet"
  | inet6 => "inet6"

/-- The ethertype that announces a packet of the family. -/
def etherType : Family → UInt16
  | inet => 0x0800
  | inet6 => 0x86dd

/-- The family that an ethertype announces, if it is one of the two. -/
def ofEtherType? (value : UInt16) : Option Family :=
  if value = 0x0800 then some inet
  else if value = 0x86dd then some inet6
  else none

/-- The prefix length that singles out one address. -/
def hostPrefixLength : Family → Nat
  | inet => 32
  | inet6 => 128

end Family

/-! ## IPv4 -/

/-- An IPv4 address, one field per octet. -/
structure Ipv4Address where
  a : UInt8
  b : UInt8
  c : UInt8
  d : UInt8
  deriving DecidableEq, Hashable, Repr, Inhabited

namespace Ipv4Address

/-- The address in which every bit is clear. -/
def zero : Ipv4Address := ⟨0, 0, 0, 0⟩

/-- The four octets in sending order. -/
def octets (address : Ipv4Address) : Bytes := [address.a, address.b, address.c, address.d]

/-- Reads the address in front of some bytes, and returns what follows it. -/
def read? : Bytes → Option (Ipv4Address × Bytes)
  | a :: b :: c :: d :: rest => some (⟨a, b, c, d⟩, rest)
  | _ => none

@[simp] theorem read?_octets (address : Ipv4Address) (rest : Bytes) :
    read? (address.octets ++ rest) = some (address, rest) := rfl

end Ipv4Address

/-! ## IPv6 -/

/-- The upper ninety-six bits of an IPv6 address, as six sixteen-bit groups. -/
structure Network96 where
  g1 : UInt16
  g2 : UInt16
  g3 : UInt16
  g4 : UInt16
  g5 : UInt16
  g6 : UInt16
  deriving DecidableEq, Hashable, Repr, Inhabited

/-- An IPv6 address: a ninety-six bit network and the low thirty-two bits, which may carry an
IPv4 address. -/
structure Ipv6Address where
  network : Network96
  low : Ipv4Address
  deriving DecidableEq, Hashable, Repr, Inhabited

namespace Ipv6Address

/-- The address in which every bit is clear, written `::`. -/
def unspecified : Ipv6Address := ⟨⟨0, 0, 0, 0, 0, 0⟩, .zero⟩

/-- The eight sixteen-bit groups of the text form. -/
def groups (address : Ipv6Address) : List UInt16 :=
  [address.network.g1, address.network.g2, address.network.g3, address.network.g4,
    address.network.g5, address.network.g6,
    Wire.word address.low.a address.low.b, Wire.word address.low.c address.low.d]

/-- The address with the given eight groups. -/
def ofGroups? : List UInt16 → Option Ipv6Address
  | [g1, g2, g3, g4, g5, g6, g7, g8] =>
      some ⟨⟨g1, g2, g3, g4, g5, g6⟩, ⟨Wire.high g7, Wire.low g7, Wire.high g8, Wire.low g8⟩⟩
  | _ => none

@[simp] theorem ofGroups?_groups (address : Ipv6Address) :
    ofGroups? address.groups = some address := by
  simp [ofGroups?, groups]

/-- The sixteen octets in sending order. -/
def octets (address : Ipv6Address) : Bytes := address.groups.flatMap Wire.bytes16

/-- Reads the address in front of some bytes, and returns what follows it. -/
def read? : Bytes → Option (Ipv6Address × Bytes)
  | b1 :: b2 :: b3 :: b4 :: b5 :: b6 :: b7 :: b8 :: b9 :: b10 :: b11 :: b12 :: rest =>
      (Ipv4Address.read? rest).map fun (low, rest) =>
        (⟨⟨Wire.word b1 b2, Wire.word b3 b4, Wire.word b5 b6, Wire.word b7 b8,
          Wire.word b9 b10, Wire.word b11 b12⟩, low⟩, rest)
  | _ => none

@[simp] theorem read?_octets (address : Ipv6Address) (rest : Bytes) :
    read? (address.octets ++ rest) = some (address, rest) := by
  simp [octets, groups, Wire.bytes16, read?, Ipv4Address.read?]

/-- The address with the low thirty-two bits cleared. -/
def masked (address : Ipv6Address) : Ipv6Address := { address with low := .zero }

/-- An IPv4 address placed in the low thirty-two bits of a network. -/
def embed (network : Network96) (low : Ipv4Address) : Ipv6Address := ⟨network, low⟩

end Ipv6Address

/-! ## Either family -/

/-- An address of either family. -/
inductive Address where
  | v4 (address : Ipv4Address)
  | v6 (address : Ipv6Address)
  deriving DecidableEq, Hashable, Repr, Inhabited

namespace Address

/-- The family an address belongs to. -/
def family : Address → Family
  | v4 _ => .inet
  | v6 _ => .inet6

/-- The octets of an address in sending order. -/
def octets : Address → Bytes
  | v4 address => address.octets
  | v6 address => address.octets

end Address

end FamilyGateway
