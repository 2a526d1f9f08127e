import FamilyGateway.Address.Text

/-!
# The mapping table

The table holds pairs of an IPv4 and an IPv6 address, pairs of an internal and a
global IPv6 address, and the network under which all other IPv4 addresses appear in
IPv6. No address occurs in two pairs of one kind, so each kind of pair can be read
in either direction; a pair that would break this is refused when it is added.

A packet from IPv4 to IPv6 keeps its source, placed under the network, and has its
destination replaced by the paired one. A packet from IPv6 to IPv4 goes the same way
back. A packet between two IPv6 addresses has exactly one of them replaced.
-/

set_option autoImplicit false

namespace FamilyGateway

/-- An IPv4 address and the IPv6 address it stands for. -/
structure MappingEntry where
  ipv4 : Ipv4Address
  ipv6 : Ipv6Address
  deriving DecidableEq, Repr

/-- An internal IPv6 address and the global one it is known by. -/
structure PeerEntry where
  inner : Ipv6Address
  outer : Ipv6Address
  deriving DecidableEq, Repr

/-- The other side of a pair, if the address is on one of its sides. -/
def PeerEntry.otherSide? (entry : PeerEntry) (address : Ipv6Address) : Option Ipv6Address :=
  if entry.inner = address then some entry.outer
  else if entry.outer = address then some entry.inner
  else none

/-- The way a packet from the IPv6 side takes. -/
inductive Direction where
  | sixToFour
  | sixToSix
  deriving DecidableEq, Repr

/-- Why the addresses of a packet have no counterpart. -/
inductive MappingError where
  /-- The address that would have to be in the table is not. -/
  | noMapping (address : Address)
  /-- Both addresses are paired with another IPv6 address. -/
  | ambiguous (source destination : Ipv6Address)
  deriving DecidableEq, Repr

/-- What is reported about addresses without a counterpart. -/
def MappingError.message : MappingError → String
  | noMapping address => s!"no mapping for {address.text}"
  | ambiguous source destination =>
    s!"both {source.text} and {destination.text} have 6-to-6 mappings"

/-- The mapping table. Pairs are in the order in which they were added. -/
structure MappingTable where
  entries : List MappingEntry
  peers : List PeerEntry
  /-- The configured network for IPv4 addresses, if there is one. -/
  configured : Option Network96
  deriving DecidableEq, Repr

namespace MappingTable

/-- A table without pairs and without a configured network. -/
def empty : MappingTable := ⟨[], [], none⟩

/-! ## Reading the table -/

/-- How many pairs of either kind there are. -/
def size (table : MappingTable) : Nat := table.entries.length + table.peers.length

/-- Whether there is no pair. -/
def isEmpty (table : MappingTable) : Bool := table.size == 0

/-- The network under which IPv4 addresses appear: `::/96` when none is configured. -/
def network (table : MappingTable) : Network96 :=
  table.configured.getD Ipv6Address.unspecified.network

/-- The network as an address, its low bits clear. -/
def networkAddress (table : MappingTable) : Ipv6Address := .embed table.network .zero

/-- The IPv6 address paired with an IPv4 address. -/
def ipv6Of? (table : MappingTable) (address : Ipv4Address) : Option Ipv6Address :=
  (table.entries.find? fun entry => entry.ipv4 = address).map MappingEntry.ipv6

/-- The IPv4 address paired with an IPv6 address. -/
def ipv4Of? (table : MappingTable) (address : Ipv6Address) : Option Ipv4Address :=
  (table.entries.find? fun entry => entry.ipv6 = address).map MappingEntry.ipv4

/-- The IPv6 address paired with an IPv6 address, on whichever side it is. -/
def peerOf? (table : MappingTable) (address : Ipv6Address) : Option Ipv6Address :=
  table.peers.findSome? fun entry => entry.otherSide? address

/-- Whether an address lies in the network for IPv4 addresses. -/
def covers (table : MappingTable) (address : Ipv6Address) : Bool :=
  address.network = table.network

/-! ## Adding to the table -/

/-- The table with one more pair across the families, unless one of its addresses is taken. -/
def insert? (table : MappingTable) (ipv4 : Ipv4Address) (ipv6 : Ipv6Address) :
    Option MappingTable :=
  if (table.ipv6Of? ipv4).isSome ∨ (table.ipv4Of? ipv6).isSome then none
  else some { table with entries := table.entries ++ [⟨ipv4, ipv6⟩] }

/-- The table with one more pair within IPv6, unless its addresses are equal or one is taken. -/
def insertPeer? (table : MappingTable) (inner outer : Ipv6Address) : Option MappingTable :=
  if inner = outer ∨ (table.peerOf? inner).isSome ∨ (table.peerOf? outer).isSome then none
  else some { table with peers := table.peers ++ [⟨inner, outer⟩] }

/-- The table with another network for IPv4 addresses. -/
def configure (table : MappingTable) (network : Network96) : MappingTable :=
  { table with configured := some network }

/-! ## Addresses on the way -/

/-- Source and destination in IPv6 of a packet from the IPv4 side. -/
def fourToSix (table : MappingTable) (source destination : Ipv4Address) :
    Except MappingError (Ipv6Address × Ipv6Address) :=
  match table.ipv6Of? destination with
  | some mapped => .ok (.embed table.network source, mapped)
  | none => .error (.noMapping (.v4 destination))

/-- Source and destination in IPv4 of a packet from the IPv6 side. -/
def sixToFour (table : MappingTable) (source destination : Ipv6Address) :
    Except MappingError (Ipv4Address × Ipv4Address) :=
  match table.ipv4Of? source with
  | some mapped => .ok (mapped, destination.low)
  | none => .error (.noMapping (.v6 source))

/-- Source and destination of a packet that stays in IPv6. Exactly one of them must be paired
within IPv6, and is replaced. -/
def sixToSix (table : MappingTable) (source destination : Ipv6Address) :
    Except MappingError (Ipv6Address × Ipv6Address) :=
  match table.peerOf? source, table.peerOf? destination with
  | some _, some _ => .error (.ambiguous source destination)
  | some mapped, none => .ok (mapped, destination)
  | none, some mapped => .ok (source, mapped)
  | none, none => .error (.noMapping (.v6 destination))

/-- The way a packet from the IPv6 side takes, if there is one. -/
def classify (table : MappingTable) (source destination : Ipv6Address) : Option Direction :=
  let knownSource := (table.peerOf? source).isSome || (table.ipv4Of? source).isSome
  let pairedDestination := (table.peerOf? destination).isSome
  if !knownSource && pairedDestination then some .sixToSix
  else if knownSource && !pairedDestination then
    if table.covers destination then some .sixToFour else some .sixToSix
  else none

end MappingTable

end FamilyGateway
