import FamilyGateway.Proofs.Mapping.Replies
import FamilyGateway.Proofs.Treatment.Atomicity

/-!
# Exactly which packets are accepted

Whether a packet is accepted is spread over reading it, choosing its way, converting its
addresses and converting its payload, and each of these can refuse it. Here it is said in one
place what has to be true of the packet and of the table: `MappingTable.AdmitsIpv4` for packets
from the IPv4 side, `MappingTable.AdmitsIpv6` for those from the IPv6 side. Each of their
constructors is a kind of packet that is let through, and names what becomes of it.

The tests that the gateway makes let through what is described and nothing else
(`Translator.ipv4_accepted_iff`, `Translator.ipv6_accepted_iff`). Neither time nor what the
translator has learnt or granted matters: acceptance is decided by the packet and the table.

The tests also keep every packet within its bounds. The program that treats a packet
(`Procedure.treat`) stops at the first position that is not there and at the first number that is
too large for its width, and it never has to (`Translator.Performs`), whatever bytes arrive.
-/

set_option autoImplicit false

namespace FamilyGateway

/-! ## The addresses in a table -/

namespace MappingTable

variable {table : MappingTable}

/-- The IPv4 address is in a pair across the families. -/
def HasIpv4 (table : MappingTable) (address : Ipv4Address) : Prop :=
  ∃ entry ∈ table.entries, entry.ipv4 = address

/-- The IPv6 address is in a pair across the families. -/
def HasIpv6 (table : MappingTable) (address : Ipv6Address) : Prop :=
  ∃ entry ∈ table.entries, entry.ipv6 = address

/-- The IPv6 address is in a pair within IPv6, on either side. -/
def HasPeer (table : MappingTable) (address : Ipv6Address) : Prop :=
  ∃ entry ∈ table.peers, entry.inner = address ∨ entry.outer = address

theorem hasIpv4_iff {address : Ipv4Address} :
    table.HasIpv4 address ↔ ∃ mapped, table.ipv6Of? address = some mapped := by
  rw [← Option.isSome_iff_exists]
  simp [HasIpv4, ipv6Of?]

theorem hasIpv6_iff {address : Ipv6Address} :
    table.HasIpv6 address ↔ ∃ mapped, table.ipv4Of? address = some mapped := by
  rw [← Option.isSome_iff_exists]
  simp [HasIpv6, ipv4Of?]

theorem not_hasIpv6_iff {address : Ipv6Address} :
    ¬ table.HasIpv6 address ↔ table.ipv4Of? address = none := by
  rw [ipv4Of?_eq_none_iff]
  simp [HasIpv6]

theorem not_hasPeer_iff {address : Ipv6Address} :
    ¬ table.HasPeer address ↔ table.peerOf? address = none := by
  rw [peerOf?_eq_none_iff]
  simp [HasPeer, PeerEntry.addresses, eq_comm]

theorem hasPeer_iff {address : Ipv6Address} :
    table.HasPeer address ↔ ∃ mapped, table.peerOf? address = some mapped := by
  rw [← Option.isSome_iff_exists, ← Option.ne_none_iff_isSome, ne_eq, ← not_hasPeer_iff,
    Classical.not_not]

/-- What is found for an IPv6 address is the IPv4 address of a pair. -/
theorem hasIpv4_of_ipv4Of? {address : Ipv6Address} {found : Ipv4Address}
    (paired : table.ipv4Of? address = some found) : table.HasIpv4 found := by
  obtain ⟨entry, listed, same⟩ := Option.map_eq_some_iff.mp paired
  exact ⟨entry, List.mem_of_find?_eq_some listed, same⟩

/-- What is found for an IPv4 address is the IPv6 address of a pair. -/
theorem hasIpv6_of_ipv6Of? {address : Ipv4Address} {found : Ipv6Address}
    (paired : table.ipv6Of? address = some found) : table.HasIpv6 found := by
  obtain ⟨entry, listed, same⟩ := Option.map_eq_some_iff.mp paired
  exact ⟨entry, List.mem_of_find?_eq_some listed, same⟩

/-- The table leads a packet to IPv6 exactly if its destination is in a pair across the families. -/
theorem exists_leads_fourToSix_iff {source destination : Ipv4Address} :
    (∃ after, table.Leads .fourToSix ⟨.v4 source, .v4 destination⟩ after) ↔
      table.HasIpv4 destination := by
  rw [hasIpv4_iff]
  constructor
  · rintro ⟨after, leads⟩
    cases leads with
    | fourToSix mapped => exact ⟨_, (fourToSix_eq_ok_iff.mp mapped).2⟩
  · rintro ⟨mapped, found⟩
    exact ⟨_, .fourToSix (fourToSix_eq_ok_iff.mpr ⟨rfl, found⟩)⟩

/-- Packets between the addresses go to IPv4: the source is in a pair across the families, and the
destination is under the network and in no pair within IPv6. -/
def JoinsIpv4 (table : MappingTable) (source destination : Ipv6Address) : Prop :=
  table.HasIpv6 source ∧ ¬ table.HasPeer destination ∧ destination.network = table.network

/-- Packets between the addresses stay in IPv6: exactly one of them is in a pair within IPv6. If
that is the destination, the source must not be in a pair across the families; if it is the
source, the destination must not be under the network. -/
def JoinsIpv6 (table : MappingTable) (source destination : Ipv6Address) : Prop :=
  (table.HasPeer destination ∧ ¬ table.HasPeer source ∧ ¬ table.HasIpv6 source) ∨
    table.HasPeer source ∧ ¬ table.HasPeer destination ∧ destination.network ≠ table.network

theorem exists_leads_sixToFour_iff {source destination : Ipv6Address} :
    (∃ after, table.Leads .sixToFour ⟨.v6 source, .v6 destination⟩ after) ↔
      table.JoinsIpv4 source destination := by
  rw [JoinsIpv4, hasIpv6_iff, not_hasPeer_iff]
  constructor
  · rintro ⟨after, leads⟩
    cases leads with
    | sixToFour chosen mapped =>
        obtain ⟨-, unpaired, covered⟩ := classify_eq_sixToFour_iff.mp chosen
        exact ⟨⟨_, (sixToFour_eq_ok_iff.mp mapped).1⟩, unpaired, of_decide_eq_true covered⟩
  · rintro ⟨⟨mapped, found⟩, unpaired, covered⟩
    refine ⟨_, .sixToFour (classify_eq_sixToFour_iff.mpr ?_)
      (sixToFour_eq_ok_iff.mpr ⟨found, rfl⟩)⟩
    exact ⟨.inr (Option.isSome_iff_exists.mpr ⟨mapped, found⟩), unpaired,
      decide_eq_true covered⟩

theorem exists_leads_sixToSix_iff {source destination : Ipv6Address} :
    (∃ after, table.Leads .sixToSix ⟨.v6 source, .v6 destination⟩ after) ↔
      table.JoinsIpv6 source destination := by
  constructor
  · rintro ⟨after, leads⟩
    cases leads with
    | sixToSix chosen mapped =>
        rcases sixToSix_eq_ok_iff.mp mapped with ⟨paired, alone, -⟩ | ⟨alone, paired, -⟩
        · rcases classify_eq_sixToSix_iff.mp chosen with ⟨unpaired, -⟩ | ⟨-, -, outside⟩
          · cases unpaired.symm.trans paired
          · exact .inr ⟨hasPeer_iff.mpr ⟨_, paired⟩, not_hasPeer_iff.mpr alone,
              of_decide_eq_false outside⟩
        · rcases classify_eq_sixToSix_iff.mp chosen with ⟨-, unknown, -⟩ | ⟨-, unpaired, -⟩
          · exact .inl ⟨hasPeer_iff.mpr ⟨_, paired⟩, not_hasPeer_iff.mpr alone,
              not_hasIpv6_iff.mpr unknown⟩
          · cases unpaired.symm.trans paired
  · rintro (⟨paired, alone, unknown⟩ | ⟨paired, alone, outside⟩)
    · obtain ⟨mapped, paired⟩ := hasPeer_iff.mp paired
      have alone := not_hasPeer_iff.mp alone
      refine ⟨_, .sixToSix (classify_eq_sixToSix_iff.mpr (.inl ⟨alone, ?_, ?_⟩))
        (sixToSix_eq_ok_iff.mpr (.inr ⟨alone, paired, rfl⟩))⟩
      · exact not_hasIpv6_iff.mp unknown
      · exact Option.isSome_iff_exists.mpr ⟨mapped, paired⟩
    · obtain ⟨mapped, paired⟩ := hasPeer_iff.mp paired
      have alone := not_hasPeer_iff.mp alone
      refine ⟨_, .sixToSix (classify_eq_sixToSix_iff.mpr (.inr ⟨.inl ?_, alone, ?_⟩))
        (sixToSix_eq_ok_iff.mpr (.inl ⟨paired, alone, rfl⟩))⟩
      · exact Option.isSome_iff_exists.mpr ⟨mapped, paired⟩
      · exact decide_eq_false outside

end MappingTable

/-! ## What becomes of a packet -/

/-- What becomes of a packet that is accepted. -/
inductive Fate where
  /-- It is a message for the gateway and ends here. -/
  | absorbed
  /-- It goes on to the other family. -/
  | crosses
  /-- It stays in IPv6 with another address. -/
  | stays
  deriving DecidableEq, Repr

/-- What becomes of a packet with a plan. -/
def Plan.fate : Plan → Fate
  | .absorb _ | .absorbUnquoted => .absorbed
  | .toIpv6 _ _ _ | .toIpv4 _ _ _ => .crosses
  | .withinIpv6 _ => .stays

/-- What is sent for a packet of a family: nothing, packets of the other family and perhaps a
notice, or one packet of the same family. -/
def Fate.Sends (family : Family) : Fate → List OutboundPacket → Prop
  | .absorbed, packets => packets = []
  | .crosses, packets =>
    (∃ output ∈ packets, output.isNotice = false) ∧
      (∀ output ∈ packets, output.isNotice = false → output.family = (Way.across family).target) ∧
      (packets.filter OutboundPacket.isNotice).length ≤ 1
  | .stays, packets => ∃ output, packets = [output] ∧ output.family = family

theorem Fate.Sends.ne_nil {family : Family} {packets : List OutboundPacket}
    (sends : Fate.crosses.Sends family packets) : packets ≠ [] := by
  obtain ⟨⟨output, member, -⟩, -⟩ := sends
  exact List.ne_nil_of_mem member

theorem FourToSix.packets_ne_nil (crossing : FourToSix) (mtu : UInt16) (drawn : UInt32) :
    crossing.packets mtu drawn ≠ [] := by
  simp only [packets]
  split
  next =>
    intro none
    exact Piece.cut_ne_nil _ _ _ (List.map_eq_nil_iff.mp none)
  next => split <;> exact List.cons_ne_nil _ _

theorem SixToFour.packets_ne_nil (crossing : SixToFour) (mtu : UInt16) (drawn : UInt32) :
    crossing.packets mtu drawn ≠ [] := by
  simp only [packets]
  split
  next =>
    intro none
    exact Piece.cut_ne_nil _ _ _ (List.map_eq_nil_iff.mp none)
  next => exact List.cons_ne_nil _ _

namespace Translator

variable {translator : Translator} {surroundings : Surroundings} {family : Family}
  {packet : Bytes} {plan : Plan}

/-- Packets that carry a payload across, behind at most one notice. -/
theorem Announces.sends {view : PacketView} {notices carried : List OutboundPacket}
    (announces : Announces family view notices carried) (some : carried ≠ [])
    (across : ∀ output ∈ carried, output.family = (Way.across family).target) :
    Fate.crosses.Sends family (notices ++ carried) := by
  refine ⟨?_, ?_, ?_⟩
  · obtain ⟨output, member⟩ := List.exists_mem_of_ne_nil carried some
    exact ⟨output, List.mem_append_right _ member, announces.silent output member⟩
  · intro output member silent
    rcases List.mem_append.mp member with notice | carries
    · rw [(announces.announced output notice).isNotice] at silent
      cases silent
    · exact across output carries
  · rw [announces.filter_isNotice]
    exact announces.atMostOne

/-- What is sent for a packet with a plan is what becomes of it. -/
theorem sends_of_plan_fate
    (planned : Plan.ofPacket translator.table family packet = .ok plan) :
    plan.fate.Sends family (translator.carryOut surroundings plan).packets := by
  obtain ⟨view, read⟩ := Plan.exists_view planned
  have announces : Announces family view (translator.noticesOf surroundings plan)
      (plan.carried translator.pathMtu surroundings.drawn) := announces_of_plan read planned
  rw [packets_carryOut]
  cases Plan.made planned with
  | absorbIpv4 => rfl
  | absorbUnquoted => rfl
  | absorbIpv6 => rfl
  | @toIpv6 _ _ _ crossing =>
      exact announces.sends (crossing.packets_ne_nil _ _) (crossing.family_packets _ _)
  | @toIpv4 _ _ crossing =>
      exact announces.sends (crossing.packets_ne_nil _ _) (crossing.family_packets _ _)
  | withinIpv6 _ _ _ becomes =>
      obtain ⟨_, _, _, _, _, rfl⟩ := SixToSix.packet_eq becomes
      exact ⟨_, rfl, rfl⟩

end Translator

/-! ## Packets from the IPv4 side -/

/-- Protocols with one number are one protocol. -/
theorem UpperProtocol.number_inj {family : Family} {left right : UpperProtocol}
    (same : left.number family = right.number family) : left = right := by
  have both := congrArg (ofNumber? family) same
  rw [ofNumber?_number, ofNumber?_number] at both
  exact Option.some.inj both

/-- The packet begins with the type of an echo request or an echo reply over IPv4. -/
def Ipv4Datagram.IsEcho (datagram : Ipv4Datagram) : Prop :=
  datagram.payload.head? = some Icmp.echoRequest ∨ datagram.payload.head? = some Icmp.echoReply

/-- The kinds of packets from the IPv4 side that are let through, and what becomes of them. -/
inductive MappingTable.AdmitsIpv4 (table : MappingTable) (datagram : Ipv4Datagram) :
    Fate → Prop where
  /-- A message in one piece that is no echo message. -/
  | discarded (number : datagram.fields.protocol = UpperProtocol.icmp.number .inet)
      (whole : datagram.isFragment = false) (long : 8 ≤ datagram.payload.length)
      (other : ¬ datagram.IsEcho) : AdmitsIpv4 table datagram .absorbed
  /-- An echo message in one piece. -/
  | echo (number : datagram.fields.protocol = UpperProtocol.icmp.number .inet)
      (whole : datagram.isFragment = false) (long : 8 ≤ datagram.payload.length)
      (echo : datagram.IsEcho) (paired : table.HasIpv4 datagram.fields.destination) :
      AdmitsIpv4 table datagram .crosses
  /-- A segment, or a part of one. At the beginning of a datagram it is empty or reaches its
  checksum, which must not be missing from the first of several fragments. -/
  | segment {protocol : UpperProtocol} (segment : protocol ≠ .icmp)
      (number : datagram.fields.protocol = protocol.number .inet)
      (paired : table.HasIpv4 datagram.fields.destination)
      (reaches : datagram.fields.fragmentOffset = 0 → datagram.payload ≠ [] →
        protocol.leastLength ≤ datagram.payload.length)
      (present : datagram.fields.fragmentOffset = 0 → datagram.fields.moreFragments = true →
        protocol = .udp → ¬ (datagram.payload[6]? = some 0 ∧ datagram.payload[7]? = some 0)) :
      AdmitsIpv4 table datagram .crosses

namespace Plan

variable {table : MappingTable} {packet : Bytes} {plan : Plan}

theorem offset_ofIpv4_eq_zero_iff {datagram : Ipv4Datagram} {protocol : UpperProtocol} :
    (PacketView.ofIpv4 datagram protocol).offset = 0 ↔ datagram.fields.fragmentOffset = 0 := by
  rw [← UInt16.toNat_inj]
  rfl

/-- A packet to an address in the table crosses if its payload can be converted. -/
theorem exists_toIpv6 {datagram : Ipv4Datagram} {protocol : UpperProtocol}
    (read : Ipv4Datagram.read packet = .ok datagram)
    (named : UpperProtocol.ofNumber? .inet datagram.fields.protocol = some protocol)
    (fits : datagram.fields.fragmentOffset.toNat + datagram.payload.length ≤ 65535)
    (message : protocol = .icmp →
      datagram.isFragment = false ∧ Icmp.advise datagram.payload = .ok .forward)
    (paired : table.HasIpv4 datagram.fields.destination)
    (convertible : datagram.fields.fragmentOffset = 0 →
      (PacketView.ofIpv4 datagram protocol).Convertible .fourToSix) :
    ∃ plan, ofPacket table .inet packet = .ok plan ∧ plan.fate = .crosses := by
  obtain ⟨after, leads⟩ := MappingTable.exists_leads_fourToSix_iff.mpr paired
  obtain ⟨payload, converted⟩ := (PacketView.exists_convert_iff leads).mpr fun first =>
    convertible (offset_ofIpv4_eq_zero_iff.mp first)
  obtain ⟨crossing, crosses⟩ := FourToSix.exists_ofDatagram leads converted
  exact ⟨_, of_made (.toIpv6 read named fits message crosses), rfl⟩

/-- What is let through has a plan. -/
theorem exists_of_admitsIpv4 {datagram : Ipv4Datagram} {fate : Fate}
    (read : Ipv4Datagram.read packet = .ok datagram)
    (fits : datagram.fields.fragmentOffset.toNat + datagram.payload.length ≤ 65535)
    (admits : table.AdmitsIpv4 datagram fate) :
    ∃ plan, ofPacket table .inet packet = .ok plan ∧ plan.fate = fate := by
  cases admits with
  | discarded number whole long other =>
      have named : UpperProtocol.ofNumber? .inet datagram.fields.protocol = some .icmp := by
        rw [number, UpperProtocol.ofNumber?_number]
      obtain ⟨advice, advised⟩ := Icmp.exists_advise_iff.mpr long
      cases advice with
      | forward => exact absurd ((Icmp.advise_forward_iff advised).mp rfl) other
      | discard report => exact ⟨_, of_made (.absorbIpv4 read named whole advised), rfl⟩
      | discardUnquoted => exact ⟨_, of_made (.absorbUnquoted read named whole advised), rfl⟩
  | echo number whole long echo paired =>
      have named : UpperProtocol.ofNumber? .inet datagram.fields.protocol = some .icmp := by
        rw [number, UpperProtocol.ofNumber?_number]
      obtain ⟨advice, advised⟩ := Icmp.exists_advise_iff.mpr long
      obtain rfl := (Icmp.advise_forward_iff advised).mpr echo
      exact exists_toIpv6 read named fits (fun _ => ⟨whole, advised⟩) paired
        fun _ => .echoToIpv6 rfl long echo
  | @segment protocol segment number paired reaches present =>
      have named : UpperProtocol.ofNumber? .inet datagram.fields.protocol = some protocol := by
        rw [number, UpperProtocol.ofNumber?_number]
      refine exists_toIpv6 read named fits (fun message => absurd message segment) paired ?_
      intro first
      exact .segment (fun message => absurd message segment) (reaches first)
        fun _ udp more => present first more udp

/-- What has a plan is let through. -/
theorem admitsIpv4 {datagram : Ipv4Datagram} (read : Ipv4Datagram.read packet = .ok datagram)
    (planned : ofPacket table .inet packet = .ok plan) :
    datagram.fields.fragmentOffset.toNat + datagram.payload.length ≤ 65535 ∧
      table.AdmitsIpv4 datagram plan.fate := by
  cases made planned with
  | absorbIpv4 readable named whole advised =>
      cases read.symm.trans readable
      have long := Icmp.exists_advise_iff.mp ⟨_, advised⟩
      refine ⟨fits_of_whole read whole,
        .discarded (UpperProtocol.eq_number_of_ofNumber? named) whole long ?_⟩
      intro echo
      cases (Icmp.advise_forward_iff advised).mpr echo
  | absorbUnquoted readable named whole advised =>
      cases read.symm.trans readable
      have long := Icmp.exists_advise_iff.mp ⟨_, advised⟩
      refine ⟨fits_of_whole read whole,
        .discarded (UpperProtocol.eq_number_of_ofNumber? named) whole long ?_⟩
      intro echo
      cases (Icmp.advise_forward_iff advised).mpr echo
  | @toIpv6 _ _ protocol _ readable named fits message crosses =>
      cases read.symm.trans readable
      have number := UpperProtocol.eq_number_of_ofNumber? named
      obtain ⟨leads, converted, -⟩ := FourToSix.of_ofDatagram crosses
      have paired := MappingTable.exists_leads_fourToSix_iff.mp ⟨_, leads⟩
      refine ⟨fits, ?_⟩
      by_cases segment : protocol = .icmp
      · obtain ⟨whole, advised⟩ := message segment
        obtain rfl := segment
        exact .echo number whole (Icmp.exists_advise_iff.mp ⟨_, advised⟩)
          ((Icmp.advise_forward_iff advised).mp rfl) paired
      · have convertible : datagram.fields.fragmentOffset = 0 →
            (PacketView.ofIpv4 datagram protocol).Convertible .fourToSix := by
          intro first
          exact (PacketView.exists_convert_iff leads).mp ⟨_, converted⟩
            (offset_ofIpv4_eq_zero_iff.mpr first)
        refine .segment segment number paired ?_ ?_
        · intro first carries
          cases convertible first with
          | echoToIpv6 message => exact absurd message segment
          | segment _ reaches => exact reaches carries
        · intro first more udp
          cases convertible first with
          | echoToIpv6 message => exact absurd message segment
          | segment _ _ present => exact present rfl udp more

end Plan

namespace Translator

/-- Exactly which packets from the IPv4 side are accepted, and for which of them nothing is sent. -/
structure DecidesIpv4 (translator : Translator) (surroundings : Surroundings) (packet : Bytes) :
    Prop where
  /-- The program for the packet decides as the step does. It never reads or writes outside of
  what it has, and no number becomes too large. -/
  performs : translator.Reachable → translator.CountersFit →
    translator.Performs surroundings .inet packet
  /-- A packet is accepted exactly if it is laid out as one without options, its datagram ends
  within the largest length, and it is of a kind that is let through. -/
  accepted_iff :
    (∃ packets, (translator.step surroundings .inet packet).result = .ok packets) ↔
      ∃ datagram fate, Ipv4Datagram.LaidOut datagram packet ∧
        datagram.fields.fragmentOffset.toNat + datagram.payload.length ≤ 65535 ∧
          translator.table.AdmitsIpv4 datagram fate
  /-- Nothing is sent exactly for messages that are no echo messages. -/
  nothing_iff {datagram : Ipv4Datagram} {packets : List OutboundPacket}
    (laidOut : datagram.LaidOut packet)
    (accepted : (translator.step surroundings .inet packet).result = .ok packets) :
    packets = [] ↔
      datagram.fields.protocol = UpperProtocol.icmp.number .inet ∧ ¬ datagram.IsEcho

/-- **Exactly which packets from the IPv4 side are accepted.** -/
theorem ipv4_accepted_iff (translator : Translator) (surroundings : Surroundings)
    (packet : Bytes) : translator.DecidesIpv4 surroundings packet where
  performs reached fit := Translator.performs fit reached.floored surroundings .inet packet
  accepted_iff := by
    constructor
    · rintro ⟨packets, accepted⟩
      obtain ⟨plan, planned, -⟩ := exists_plan_of_accepted accepted
      obtain ⟨view, shown⟩ := Plan.exists_view planned
      obtain ⟨datagram, protocol, read, -, -⟩ := PacketView.read?_inet shown
      obtain ⟨fits, admits⟩ := Plan.admitsIpv4 read planned
      exact ⟨datagram, _, Ipv4Datagram.read_eq_ok_iff.mp read, fits, admits⟩
    · rintro ⟨datagram, fate, laidOut, fits, admits⟩
      obtain ⟨plan, planned, -⟩ := Plan.exists_of_admitsIpv4 laidOut.read fits admits
      exact ⟨_, result_of_plan planned⟩
  nothing_iff := by
    intro datagram packets laidOut accepted
    obtain ⟨plan, planned, rfl, -⟩ := exists_plan_of_accepted accepted
    obtain ⟨-, admits⟩ := Plan.admitsIpv4 laidOut.read planned
    have sends : plan.fate.Sends .inet (translator.carryOut surroundings plan).packets :=
      sends_of_plan_fate planned
    generalize plan.fate = fate at admits sends
    cases admits with
    | discarded number whole long other => exact iff_of_true sends ⟨number, other⟩
    | echo number whole long echo paired =>
        refine iff_of_false sends.ne_nil ?_
        rintro ⟨-, other⟩
        exact other echo
    | segment segment number paired reaches present =>
        refine iff_of_false sends.ne_nil ?_
        rintro ⟨message, -⟩
        exact segment (UpperProtocol.number_inj (number.symm.trans message))

end Translator

/-- A packet over IPv4 of a protocol that is not translated. -/
def Sample.tunnelled : Bytes :=
  (Ipv4Fields.mk 0x45 0 21 0 0 64 47 0 remote host.ipv4).encode ++ [0xff]

theorem Translator.ipv4_accepted_iff_tunnelled :
    Sample.translator.Reachable ∧ Sample.translator.CountersFit ∧
      (Procedure.treat Sample.answering .inet Sample.tunnelled).run ⟨Sample.translator, []⟩ =
        .error (.drop (.protocol 47)) ⟨Sample.translator, []⟩ :=
  ⟨Sample.reachable, Sample.countersFit,
    ((ipv4_accepted_iff Sample.translator Sample.answering Sample.tunnelled).performs
      Sample.reachable Sample.countersFit).ends []⟩

/-! ## Packets from the IPv6 side -/

namespace Ipv6Datagram

/-- The packet is a packet-too-big message without a Fragment header. -/
def IsTooBig (datagram : Ipv6Datagram) : Prop :=
  datagram.protocol = .icmp ∧ datagram.fragment = none ∧
    datagram.payload.head? = some Icmp.packetTooBig

/-- The packet begins with the type of an echo request or an echo reply over IPv6. -/
def IsEcho (datagram : Ipv6Datagram) : Prop :=
  datagram.payload.head? = some Icmp.echoRequestV6 ∨
    datagram.payload.head? = some Icmp.echoReplyV6

theorem isTooBig_iff {datagram : Ipv6Datagram} :
    Plan.isPacketTooBig datagram = true ↔ datagram.IsTooBig := by
  simp only [Plan.isPacketTooBig, IsTooBig, Bool.and_eq_true, decide_eq_true_eq,
    Option.isNone_iff_eq_none, and_assoc]

theorem IsEcho.not_isTooBig {datagram : Ipv6Datagram} (echo : datagram.IsEcho) :
    ¬ datagram.IsTooBig := by
  rintro ⟨-, -, type⟩
  rcases echo with request | reply
  · exact absurd (type.symm.trans request) (by decide)
  · exact absurd (type.symm.trans reply) (by decide)

end Ipv6Datagram

/-- The kinds of packets from the IPv6 side that are let through, and what becomes of them. -/
inductive MappingTable.AdmitsIpv6 (table : MappingTable) (datagram : Ipv6Datagram) :
    Fate → Prop where
  /-- A packet-too-big message that quotes a whole header. -/
  | report (tooBig : datagram.IsTooBig) (long : 48 ≤ datagram.payload.length) :
      AdmitsIpv6 table datagram .absorbed
  /-- An echo message in one piece, to IPv4. -/
  | echo (message : datagram.protocol = .icmp) (whole : datagram.isFragment = false)
      (long : 8 ≤ datagram.payload.length) (echo : datagram.IsEcho)
      (fits : datagram.fragmentOffset.toNat + datagram.payload.length ≤ 65535)
      (joins : table.JoinsIpv4 datagram.fields.source datagram.fields.destination) :
      AdmitsIpv6 table datagram .crosses
  /-- A segment, or a part of one, to IPv4. At the beginning of a datagram it is empty or reaches
  its checksum. -/
  | segment (segment : datagram.protocol ≠ .icmp)
      (fits : datagram.fragmentOffset.toNat + datagram.payload.length ≤ 65535)
      (joins : table.JoinsIpv4 datagram.fields.source datagram.fields.destination)
      (reaches : datagram.fragmentOffset = 0 → datagram.payload ≠ [] →
        datagram.protocol.leastLength ≤ datagram.payload.length) :
      AdmitsIpv6 table datagram .crosses
  /-- Anything else within IPv6. At the beginning of a datagram it is empty or reaches its
  checksum. -/
  | readdressed (other : ¬ datagram.IsTooBig)
      (joins : table.JoinsIpv6 datagram.fields.source datagram.fields.destination)
      (reaches : datagram.fragmentOffset = 0 → datagram.payload ≠ [] →
        datagram.protocol.leastLength ≤ datagram.payload.length) :
      AdmitsIpv6 table datagram .stays

namespace Plan

variable {table : MappingTable} {packet : Bytes} {plan : Plan}

theorem offset_ofIpv6_eq_zero_iff {datagram : Ipv6Datagram} :
    (PacketView.ofIpv6 datagram).offset = 0 ↔ datagram.fragmentOffset = 0 := by
  rw [← UInt16.toNat_inj]
  rfl

/-- A packet between addresses that are joined across the families crosses if its payload can be
converted. -/
theorem exists_toIpv4 {datagram : Ipv6Datagram} (read : Ipv6Datagram.read packet = .ok datagram)
    (other : ¬ datagram.IsTooBig)
    (plain : ¬ (datagram.protocol = .icmp ∧ datagram.isFragment = true))
    (fits : datagram.fragmentOffset.toNat + datagram.payload.length ≤ 65535)
    (joins : table.JoinsIpv4 datagram.fields.source datagram.fields.destination)
    (convertible : datagram.fragmentOffset = 0 →
      (PacketView.ofIpv6 datagram).Convertible .sixToFour) :
    ∃ plan, ofPacket table .inet6 packet = .ok plan ∧ plan.fate = .crosses := by
  obtain ⟨after, leads⟩ := MappingTable.exists_leads_sixToFour_iff.mpr joins
  obtain ⟨payload, converted⟩ := (PacketView.exists_convert_iff leads).mpr fun first =>
    convertible (offset_ofIpv6_eq_zero_iff.mp first)
  obtain ⟨crossing, crosses⟩ := SixToFour.exists_ofDatagram plain fits leads converted
  have message := Bool.eq_false_iff.mpr (Ipv6Datagram.isTooBig_iff.not.mpr other)
  cases leads with
  | sixToFour chosen mapped => exact ⟨_, of_made (.toIpv4 read message chosen crosses), rfl⟩

/-- What is let through has a plan. -/
theorem exists_of_admitsIpv6 {datagram : Ipv6Datagram} {fate : Fate}
    (read : Ipv6Datagram.read packet = .ok datagram) (admits : table.AdmitsIpv6 datagram fate) :
    ∃ plan, ofPacket table .inet6 packet = .ok plan ∧ plan.fate = fate := by
  cases admits with
  | report tooBig long =>
      obtain ⟨report, reported⟩ := (Icmp.exists_readPacketTooBig_iff tooBig.2.2).mpr long
      exact ⟨_, of_made (.absorbIpv6 read (Ipv6Datagram.isTooBig_iff.mpr tooBig) reported), rfl⟩
  | echo message whole long echo fits joins =>
      refine exists_toIpv4 read echo.not_isTooBig ?_ fits joins fun _ =>
        .echoToIpv4 message long echo
      rintro ⟨-, fragment⟩
      rw [whole] at fragment
      cases fragment
  | segment segment fits joins reaches =>
      refine exists_toIpv4 read (fun tooBig => segment tooBig.1)
        (fun message => segment message.1) fits joins ?_
      intro first
      exact .segment (fun message => absurd message segment) (reaches first) nofun
  | readdressed other joins reaches =>
      obtain ⟨after, leads⟩ := MappingTable.exists_leads_sixToSix_iff.mpr joins
      have convertible : (PacketView.ofIpv6 datagram).offset = 0 →
          (PacketView.ofIpv6 datagram).Convertible .sixToSix := by
        intro first
        exact .segment (fun _ => rfl) (reaches (offset_ofIpv6_eq_zero_iff.mp first)) nofun
      obtain ⟨payload, converted⟩ := (PacketView.exists_convert_iff leads).mpr convertible
      obtain ⟨outbound, becomes⟩ := SixToSix.exists_packet leads converted
      have message := Bool.eq_false_iff.mpr (Ipv6Datagram.isTooBig_iff.not.mpr other)
      cases leads with
      | sixToSix chosen mapped =>
          exact ⟨_, of_made (.withinIpv6 read message chosen becomes), rfl⟩

/-- What has a plan is let through. -/
theorem admitsIpv6 {datagram : Ipv6Datagram} (read : Ipv6Datagram.read packet = .ok datagram)
    (planned : ofPacket table .inet6 packet = .ok plan) :
    table.AdmitsIpv6 datagram plan.fate := by
  cases made planned with
  | absorbIpv6 readable message reported =>
      cases read.symm.trans readable
      have tooBig := Ipv6Datagram.isTooBig_iff.mp message
      exact .report tooBig ((Icmp.exists_readPacketTooBig_iff tooBig.2.2).mp ⟨_, reported⟩)
  | toIpv4 readable message chosen crosses =>
      cases read.symm.trans readable
      obtain ⟨leads, converted, -, fits, unfragmented⟩ := SixToFour.of_ofDatagram chosen crosses
      have joins := MappingTable.exists_leads_sixToFour_iff.mp ⟨_, leads⟩
      have convertible : datagram.fragmentOffset = 0 →
          (PacketView.ofIpv6 datagram).Convertible .sixToFour := by
        intro first
        exact (PacketView.exists_convert_iff leads).mp ⟨_, converted⟩
          (offset_ofIpv6_eq_zero_iff.mpr first)
      by_cases segment : datagram.protocol = .icmp
      · have whole := unfragmented segment
        have first : datagram.fragmentOffset = 0 := by
          rw [PacketView.isFragment_ofIpv6] at whole
          exact offset_ofIpv6_eq_zero_iff.mp (PacketView.offset_of_whole whole)
        cases convertible first with
        | echoToIpv4 _ long echo => exact .echo segment whole long echo fits joins
        | segment covered => cases covered segment
      · refine .segment segment fits joins ?_
        intro first carries
        cases convertible first with
        | echoToIpv4 message => exact absurd message segment
        | segment _ reaches => exact reaches carries
  | withinIpv6 readable message chosen becomes =>
      cases read.symm.trans readable
      obtain ⟨source, destination, payload, mapped, converted, -⟩ := SixToSix.packet_eq becomes
      have leads : table.Leads .sixToSix (PacketView.ofIpv6 datagram).endpoints
          ⟨.v6 source, .v6 destination⟩ := .sixToSix chosen mapped
      refine .readdressed (Ipv6Datagram.isTooBig_iff.not.mp (Bool.eq_false_iff.mp message))
        (MappingTable.exists_leads_sixToSix_iff.mp ⟨_, leads⟩) ?_
      intro first carries
      cases (PacketView.exists_convert_iff leads).mp ⟨_, converted⟩
        (offset_ofIpv6_eq_zero_iff.mpr first) with
      | segment _ reaches => exact reaches carries

end Plan

namespace Translator

/-- Exactly which packets from the IPv6 side are accepted, and what is sent for them. -/
structure DecidesIpv6 (translator : Translator) (surroundings : Surroundings) (packet : Bytes) :
    Prop where
  /-- The program for the packet decides as the step does. It never reads or writes outside of
  what it has, and no number becomes too large. -/
  performs : translator.Reachable → translator.CountersFit →
    translator.Performs surroundings .inet6 packet
  /-- A packet is accepted exactly if it is laid out as an IPv6 packet and is of a kind that is let
  through. -/
  accepted_iff :
    (∃ packets, (translator.step surroundings .inet6 packet).result = .ok packets) ↔
      ∃ datagram extension fate, Ipv6Datagram.LaidOut datagram extension packet ∧
        translator.table.AdmitsIpv6 datagram fate
  /-- What is sent depends on the kind of the packet. -/
  sends {datagram : Ipv6Datagram} {extension : Bytes} {fate : Fate}
    {packets : List OutboundPacket} (laidOut : datagram.LaidOut extension packet)
    (admits : translator.table.AdmitsIpv6 datagram fate)
    (accepted : (translator.step surroundings .inet6 packet).result = .ok packets) :
    fate.Sends .inet6 packets

/-- **Exactly which packets from the IPv6 side are accepted.** -/
theorem ipv6_accepted_iff (translator : Translator) (surroundings : Surroundings)
    (packet : Bytes) : translator.DecidesIpv6 surroundings packet where
  performs reached fit := Translator.performs fit reached.floored surroundings .inet6 packet
  accepted_iff := by
    constructor
    · rintro ⟨packets, accepted⟩
      obtain ⟨plan, planned, -⟩ := exists_plan_of_accepted accepted
      obtain ⟨view, shown⟩ := Plan.exists_view planned
      obtain ⟨datagram, read, -⟩ := PacketView.read?_inet6 shown
      obtain ⟨extension, laidOut⟩ := Ipv6Datagram.read_eq_ok_iff.mp read
      exact ⟨datagram, extension, _, laidOut, Plan.admitsIpv6 read planned⟩
    · rintro ⟨datagram, extension, fate, laidOut, admits⟩
      obtain ⟨plan, planned, -⟩ := Plan.exists_of_admitsIpv6 laidOut.read admits
      exact ⟨_, result_of_plan planned⟩
  sends := by
    intro datagram extension fate packets laidOut admits accepted
    obtain ⟨plan, planned, rfl, -⟩ := exists_plan_of_accepted accepted
    obtain ⟨other, same, rfl⟩ := Plan.exists_of_admitsIpv6 laidOut.read admits
    cases planned.symm.trans same
    exact sends_of_plan_fate planned

end Translator

/-- A packet over IPv6 that ends within its Fragment header. -/
def Sample.cutShort : Bytes :=
  (Ipv6Fields.mk 0x60000000 4 44 64 host.ipv6 (.embed network remote)).encode ++ [17, 0, 0, 1]

theorem Translator.ipv6_accepted_iff_cutShort :
    Sample.translator.Reachable ∧ Sample.translator.CountersFit ∧
      (Procedure.treat Sample.answering .inet6 Sample.cutShort).run ⟨Sample.translator, []⟩ =
        .error (.drop (.truncated .fragmentHeader)) ⟨Sample.translator, []⟩ :=
  ⟨Sample.reachable, Sample.countersFit,
    ((ipv6_accepted_iff Sample.translator Sample.answering Sample.cutShort).performs
      Sample.reachable Sample.countersFit).ends []⟩

end FamilyGateway
