import FamilyGateway.Proofs.Checksum.Segment
import FamilyGateway.Proofs.Icmp.Crossing
import FamilyGateway.Proofs.Packet.Covering
import FamilyGateway.Translator.Plan

/-!
# Ways through the gateway

A packet takes one of three ways, which the mapping table chooses by its endpoints
(`MappingTable.Leads`). On each of them the same three things happen: the endpoints
are replaced, the payload is made to fit them (`PacketView.convert`), and packets are
sent that carry the payload on (`PacketView.sent`). This module describes them on
views of packets, apart from the bytes of any header.

Whatever the way and the path MTU, the packets that are sent cover the payload where
the packet that arrived carried it (`PacketView.covers_sent`), and their headers
differ in their place in the datagram only (`PacketView.headers_sent`,
`PacketView.identification_sent`).
-/

set_option autoImplicit false

namespace FamilyGateway

/-! ## Endpoints -/

/-- A way that a packet can take. -/
inductive Way where
  | fourToSix
  | sixToFour
  | sixToSix
  deriving DecidableEq, Repr

namespace Way

/-- The family of the packets that take a way. -/
def origin : Way → Family
  | fourToSix => .inet
  | sixToFour => .inet6
  | sixToSix => .inet6

/-- The family of the packets that are sent. -/
def target : Way → Family
  | fourToSix => .inet6
  | sixToFour => .inet
  | sixToSix => .inet6

end Way

/-- The table leads a packet between some endpoints along a way, where it has other endpoints. -/
inductive MappingTable.Leads (table : MappingTable) : Way → Endpoints → Endpoints → Prop where
  | fourToSix {source destination : Ipv4Address} {newSource newDestination : Ipv6Address}
      (mapped : table.fourToSix source destination = .ok (newSource, newDestination)) :
      Leads table .fourToSix ⟨.v4 source, .v4 destination⟩ ⟨.v6 newSource, .v6 newDestination⟩
  | sixToFour {source destination : Ipv6Address} {newSource newDestination : Ipv4Address}
      (chosen : table.classify source destination = some .sixToFour)
      (mapped : table.sixToFour source destination = .ok (newSource, newDestination)) :
      Leads table .sixToFour ⟨.v6 source, .v6 destination⟩ ⟨.v4 newSource, .v4 newDestination⟩
  | sixToSix {source destination newSource newDestination : Ipv6Address}
      (chosen : table.classify source destination = some .sixToSix)
      (mapped : table.sixToSix source destination = .ok (newSource, newDestination)) :
      Leads table .sixToSix ⟨.v6 source, .v6 destination⟩ ⟨.v6 newSource, .v6 newDestination⟩

namespace MappingTable.Leads

variable {table : MappingTable} {way : Way} {before after : Endpoints}

/-- There is one way from given endpoints, and it leads to given endpoints. -/
theorem unique (leads : table.Leads way before after) {other : Way} {others : Endpoints}
    (also : table.Leads other before others) : other = way ∧ others = after := by
  cases leads with
  | fourToSix mapped =>
      cases also with
      | fourToSix mapped' =>
          cases mapped.symm.trans mapped'
          exact ⟨rfl, rfl⟩
  | sixToFour chosen mapped =>
      cases also with
      | sixToFour chosen' mapped' =>
          cases mapped.symm.trans mapped'
          exact ⟨rfl, rfl⟩
      | sixToSix chosen' mapped' => cases chosen.symm.trans chosen'
  | sixToSix chosen mapped =>
      cases also with
      | sixToFour chosen' mapped' => cases chosen.symm.trans chosen'
      | sixToSix chosen' mapped' =>
          cases mapped.symm.trans mapped'
          exact ⟨rfl, rfl⟩

theorem origin (leads : table.Leads way before after) :
    before.source.family = way.origin ∧ before.destination.family = way.origin := by
  cases leads <;> exact ⟨rfl, rfl⟩

theorem target (leads : table.Leads way before after) :
    after.source.family = way.target ∧ after.destination.family = way.target := by
  cases leads <;> exact ⟨rfl, rfl⟩

/-- Only one way leads from IPv4 to IPv6. -/
theorem crosses_iff (leads : table.Leads way before after) :
    before.source.family = .inet ∧ after.source.family = .inet6 ↔ way = .fourToSix := by
  rw [leads.origin.1, leads.target.1]
  cases way <;> decide

theorem one_origin (leads : table.Leads way before after) :
    before.source.family = before.destination.family :=
  leads.origin.1.trans leads.origin.2.symm

theorem one_target (leads : table.Leads way before after) :
    after.source.family = after.destination.family :=
  leads.target.1.trans leads.target.2.symm

end MappingTable.Leads

/-! ## The payload -/

namespace PacketView

/-- The payload of a packet once it is on a way that ends at some endpoints. Only what stands at
the beginning of a datagram has to be changed. -/
def convert (view : PacketView) (way : Way) (after : Endpoints) : Except DropReason Bytes :=
  if view.offset ≠ 0 then .ok view.payload
  else
    match way, view.protocol with
    | .fourToSix, .icmp => Icmp.cross Icmp.toIpv6 after view.payload
    | .sixToFour, .icmp => Icmp.cross Icmp.toIpv4 view.endpoints view.payload
    | _, protocol =>
      Segment.readdress protocol view.endpoints after view.isFragment view.payload

variable {view : PacketView} {way : Way} {after : Endpoints} {payload : Bytes}

/-- What does not stand at the beginning of a datagram is carried on as it is. -/
theorem convert_of_offset (later : view.offset ≠ 0) :
    view.convert way after = .ok view.payload := by
  unfold convert
  rw [if_pos later]

/-- Where the checksum of the protocol covers the endpoints on both sides, the payload is given
new endpoints. -/
theorem convert_of_segment (first : view.offset = 0)
    (covered : view.protocol = .icmp → way = .sixToSix) :
    view.convert way after =
      Segment.readdress view.protocol view.endpoints after view.isFragment view.payload := by
  unfold convert
  rw [if_neg (not_not_intro first)]
  split
  next named => cases covered named
  next named => cases covered named
  next => rfl

theorem convert_of_echo_fourToSix (first : view.offset = 0) (echo : view.protocol = .icmp) :
    view.convert .fourToSix after = Icmp.cross Icmp.toIpv6 after view.payload := by
  unfold convert
  rw [if_neg (not_not_intro first), echo]

theorem convert_of_echo_sixToFour (first : view.offset = 0) (echo : view.protocol = .icmp) :
    view.convert .sixToFour after = Icmp.cross Icmp.toIpv4 view.endpoints view.payload := by
  unfold convert
  rw [if_neg (not_not_intro first), echo]

/-- A payload keeps its length. -/
theorem length_convert (leads : view.endpoints.source.family = view.endpoints.destination.family)
    (led : after.source.family = after.destination.family)
    (ok : view.convert way after = .ok payload) : payload.length = view.payload.length := by
  by_cases first : view.offset = 0
  · by_cases covered : view.protocol = .icmp → way = .sixToSix
    · rw [convert_of_segment first covered] at ok
      exact Segment.length_readdress ok
    · obtain ⟨echo, crosses⟩ := Classical.not_imp.mp covered
      cases way with
      | fourToSix =>
          rw [convert_of_echo_fourToSix first echo] at ok
          exact Icmp.length_toIpv6 (Icmp.cross_ok led ok)
      | sixToFour =>
          rw [convert_of_echo_sixToFour first echo] at ok
          exact Icmp.length_toIpv4 (Icmp.cross_ok leads ok)
      | sixToSix => exact absurd rfl crosses
  · rw [convert_of_offset first] at ok
    cases ok
    rfl

end PacketView

/-! ## The packets -/

namespace Way

/-- The room in a packet for a payload that has to be cut for a path MTU, if it has to be. -/
def roomFor? (mtu : UInt16) (length : Nat) : Way → Option Nat
  | fourToSix => if FourToSix.room mtu < length then some (FourToSix.room mtu) else none
  | sixToFour =>
    if mtu.toNat < Ipv4Fields.byteLength + length then some (SixToFour.room mtu) else none
  | sixToSix => none

/-- The identification of the packets that are sent, where they have one. It is drawn for a
datagram that brings none. -/
def identification (drawn : UInt32) (arrived : Option UInt32) : Way → Option UInt32
  | fourToSix => some (if arrived = some 0 then drawn else arrived.getD drawn)
  | sixToFour => some (arrived.getD drawn).toUInt16.toUInt32
  | sixToSix => arrived

end Way

namespace PacketView

/-- The packet that carries a piece of the payload on. -/
def part (view : PacketView) (after : Endpoints) (identification : Option UInt32)
    (dontFragment : Bool) (piece : Piece) : PacketView where
  endpoints := after
  protocol := view.protocol
  hopLimit := view.hopLimit
  identification := identification
  dontFragment := dontFragment
  offset := view.offset + piece.start
  moreFragments := !piece.last || view.moreFragments
  payload := piece.data

/-- The packet that carries all of the payload on. What was not a fragment goes to IPv6 without
an identification; what had none goes to IPv4 in a packet that must not be cut. -/
def whole (view : PacketView) (way : Way) (after : Endpoints) (drawn : UInt32)
    (payload : Bytes) : PacketView :=
  let identification := way.identification drawn view.identification
  let piece : Piece := ⟨0, payload, true⟩
  match way with
  | .fourToSix =>
    view.part after (if view.isFragment then identification else none) true piece
  | .sixToFour => view.part after identification view.identification.isNone piece
  | .sixToSix => view.part after identification true piece

/-- The packets that carry the payload on over a path of the given MTU. -/
def sent (view : PacketView) (way : Way) (after : Endpoints) (mtu : UInt16) (drawn : UInt32)
    (payload : Bytes) : List PacketView :=
  match way.roomFor? mtu payload.length with
  | none => [view.whole way after drawn payload]
  | some room =>
    (Piece.cut room 0 payload).map
      (view.part after (way.identification drawn view.identification) (way.target = .inet6))

variable {view : PacketView} {way : Way} {after : Endpoints} {mtu : UInt16} {drawn : UInt32}
  {payload : Bytes}

/-- A property of the packets that are sent is one of the packet for the whole payload and of
the packets for its pieces. -/
theorem forall_sent {property : PacketView → Prop}
    (uncut : property (view.whole way after drawn payload))
    (pieces : ∀ piece, property (view.part after (way.identification drawn view.identification)
      (way.target = .inet6) piece)) :
    ∀ packet ∈ view.sent way after mtu drawn payload, property packet := by
  intro packet member
  unfold sent at member
  split at member
  next =>
    rw [List.mem_singleton.mp member]
    exact uncut
  next =>
    obtain ⟨piece, _, rfl⟩ := List.mem_map.mp member
    exact pieces piece

/-- The packet for the whole payload is a part of the packet that arrived. -/
theorem whole_eq_part (view : PacketView) (way : Way) (after : Endpoints) (drawn : UInt32)
    (payload : Bytes) : ∃ identification dontFragment, view.whole way after drawn payload =
      view.part after identification dontFragment ⟨0, payload, true⟩ := by
  cases way <;> exact ⟨_, _, rfl⟩

/-- **The packets that are sent cover the payload.** They begin where the packet that arrived
began, and its more-fragments flag is on the last of them. -/
theorem covers_sent : Covers view.moreFragments view.offset
    (view.sent way after mtu drawn payload) payload := by
  unfold sent
  split
  next =>
    obtain ⟨identification, dontFragment, same⟩ := view.whole_eq_part way after drawn payload
    rw [same]
    exact .last _ rfl rfl
  next room _ =>
    exact Piece.covers_cut (fun _ => rfl) (fun _ => rfl) (fun _ => rfl) room 0 payload

/-- A receiver puts the payload together again. -/
theorem reassemble_sent : reassemble (view.sent way after mtu drawn payload) = payload :=
  covers_sent.reassemble_of_perm (List.Perm.refl _)

/-- The packets that are sent have the new endpoints, and protocol and hop limit of the packet
that arrived. -/
theorem headers_sent : ∀ packet ∈ view.sent way after mtu drawn payload,
    packet.endpoints = after ∧ packet.protocol = view.protocol ∧
      packet.hopLimit = view.hopLimit := by
  refine forall_sent ?_ fun piece => ⟨rfl, rfl, rfl⟩
  cases way <;> exact ⟨rfl, rfl, rfl⟩

/-- All packets that are sent have one identification, or there is one packet and none. -/
theorem identification_sent (view : PacketView) (way : Way) (after : Endpoints) (mtu : UInt16)
    (drawn : UInt32) (payload : Bytes) :
    (∀ packet ∈ view.sent way after mtu drawn payload,
        packet.identification = way.identification drawn view.identification) ∨
      way = .fourToSix ∧ view.isFragment = false ∧
        (view.sent way after mtu drawn payload).length = 1 ∧
        ∀ packet ∈ view.sent way after mtu drawn payload, packet.identification = none := by
  by_cases plain : way = .fourToSix ∧ view.isFragment = false
  · obtain ⟨rfl, plain⟩ := plain
    unfold sent
    split
    next =>
      refine .inr ⟨rfl, plain, rfl, fun packet member => ?_⟩
      rw [List.mem_singleton.mp member]
      show (if view.isFragment then _ else none) = none
      rw [if_neg (Bool.eq_false_iff.mp plain)]
    next =>
      refine .inl fun packet member => ?_
      obtain ⟨piece, _, rfl⟩ := List.mem_map.mp member
      rfl
  · refine .inl (forall_sent ?_ fun piece => rfl)
    cases way with
    | fourToSix =>
        have fragment : view.isFragment = true :=
          Bool.of_not_eq_false fun whole => plain ⟨rfl, whole⟩
        show (if view.isFragment then _ else none) = _
        rw [if_pos fragment]
    | sixToFour => rfl
    | sixToSix => rfl

/-- Only a packet that goes to IPv4 in one piece and had no identification must not be cut. -/
theorem dontFragment_sent : ∀ packet ∈ view.sent .sixToFour after mtu drawn payload,
    packet.dontFragment = true →
      (view.sent .sixToFour after mtu drawn payload).length = 1 ∧ view.identification = none := by
  intro packet member whole
  unfold sent at member ⊢
  split at member
  next =>
    rw [List.mem_singleton.mp member] at whole
    exact ⟨rfl, Option.isNone_iff_eq_none.mp whole⟩
  next =>
    obtain ⟨piece, _, rfl⟩ := List.mem_map.mp member
    cases whole

end PacketView

end FamilyGateway
