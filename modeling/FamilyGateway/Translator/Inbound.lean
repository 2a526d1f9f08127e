import FamilyGateway.Packet.FragmentHeader
import FamilyGateway.Packet.Ipv4Header
import FamilyGateway.Packet.Ipv6Header
import FamilyGateway.Packet.Protocol
import FamilyGateway.Translator.DropReason

/-!
# Packets that arrive

A packet is taken apart once, when it arrives. Its declared length must fit into the
bytes that arrived; bytes after the declared length are no part of it. What comes out
is a header, for IPv6 perhaps a Fragment header, and the upper-layer payload.
-/

set_option autoImplicit false

namespace FamilyGateway

/-- The largest datagram that a sixteen-bit length can describe. -/
def maxDatagram : Nat := 65535

/-! ## IPv4 -/

/-- An IPv4 packet taken apart. -/
structure Ipv4Datagram where
  fields : Ipv4Fields
  payload : Bytes
  deriving DecidableEq, Repr

namespace Ipv4Datagram

/-- Takes an IPv4 packet apart. Headers with options are refused. -/
def read (packet : Bytes) : Except DropReason Ipv4Datagram :=
  match Ipv4Fields.read? packet with
  | none => .error (.truncated .ipv4Packet)
  | some (fields, rest) =>
    let total := fields.totalLength.toNat
    if packet.length < fields.headerLength ∨ total < fields.headerLength ∨
        packet.length < total then
      .error (.truncated .ipv4Packet)
    else if fields.version ≠ 4 then
      .error (.wrongVersion fields.version)
    else if fields.headerLength < Ipv4Fields.byteLength then
      .error (.truncated .ipv4Header)
    else if fields.headerLength ≠ Ipv4Fields.byteLength then
      .error (.ipv4Options fields.headerLength)
    else
      .ok ⟨fields, rest.take (total - Ipv4Fields.byteLength)⟩

/-- Whether the packet is one of several fragments of its datagram. -/
def isFragment (datagram : Ipv4Datagram) : Bool :=
  datagram.fields.moreFragments || datagram.fields.fragmentOffset != 0

end Ipv4Datagram

/-! ## IPv6 -/

/-- An IPv6 packet taken apart. -/
structure Ipv6Datagram where
  fields : Ipv6Fields
  fragment : Option FragmentHeader
  protocol : UpperProtocol
  payload : Bytes
  deriving DecidableEq, Repr

namespace Ipv6Datagram

/-- The upper-layer protocol that a next-header number announces. -/
def readProtocol (number : UInt8) : Except DropReason UpperProtocol :=
  match UpperProtocol.ofNumber? .inet6 number with
  | some protocol => .ok protocol
  | none =>
    if isExtensionHeader number then .error (.extensionHeader number)
    else .error (.protocol number)

/-- Takes an IPv6 packet apart. One Fragment header is accepted, and no other extension header. -/
def read (packet : Bytes) : Except DropReason Ipv6Datagram :=
  match Ipv6Fields.read? packet with
  | none => .error (.truncated .ipv6Packet)
  | some (fields, rest) =>
    let length := fields.payloadLength.toNat
    if rest.length < length then
      .error (.truncated .ipv6Packet)
    else if fields.version ≠ 6 then
      .error (.wrongVersion fields.version)
    else if fields.nextHeader = fragmentNumber then
      match FragmentHeader.read? (rest.take length) with
      | none => .error (.truncated .fragmentHeader)
      | some (fragment, payload) => do
        let protocol ← readProtocol fragment.nextHeader
        .ok ⟨fields, some fragment, protocol, payload⟩
    else do
      let protocol ← readProtocol fields.nextHeader
      .ok ⟨fields, none, protocol, rest.take length⟩

/-- The position of the payload in its datagram, in bytes. -/
def fragmentOffset (datagram : Ipv6Datagram) : UInt16 :=
  match datagram.fragment with
  | some fragment => fragment.offset
  | none => 0

/-- Whether more fragments of the datagram follow. -/
def moreFragments (datagram : Ipv6Datagram) : Bool :=
  match datagram.fragment with
  | some fragment => fragment.moreFragments
  | none => false

/-- Whether the packet is one of several fragments of its datagram. -/
def isFragment (datagram : Ipv6Datagram) : Bool :=
  match datagram.fragment with
  | some fragment => fragment.isFragment
  | none => false

end Ipv6Datagram

end FamilyGateway
