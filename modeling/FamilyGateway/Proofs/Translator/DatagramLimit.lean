import FamilyGateway.Proofs.Packet.Declared
import FamilyGateway.Proofs.Translator.Passage
import FamilyGateway.Proofs.Translator.Reachable

/-!
# How far datagrams reach

A length field of sixteen bits describes at most 65535 bytes. Over IPv6 these are the bytes
behind the fixed header, over IPv4 they include the header of twenty bytes. A packet is
dropped if its payload ends behind byte 65535 of its datagram
(`Plan.ofIpv4_oversized`, `Plan.ofIpv6_oversized`), and that is the right limit for what
is sent over IPv6. For IPv4 it leaves the header out of account: the packets that are sent
stay within a datagram that IPv4 can describe exactly if the payload ends twenty bytes
earlier (`Translator.within_limit_iff`).
-/

set_option autoImplicit false

namespace FamilyGateway

open OutboundPacket (Show)

/-- Packets that cover some bytes reach as far as the bytes do. -/
theorem Covers.forall_end_le_iff {more : Bool} {offset : Nat} {views : List PacketView}
    {bytes : Bytes} (covers : Covers more offset views bytes) (limit : Nat) :
    (∀ view ∈ views, view.offset + view.payload.length ≤ limit) ↔
      offset + bytes.length ≤ limit := by
  induction covers with
  | last view placed flag => rw [List.forall_mem_singleton, placed]
  | cons view placed flag carries aligned remains later ih =>
      rw [List.forall_mem_cons, ih, List.length_append, placed]
      omega

/-- What is sent over IPv4 reaches as far as the payload does with a header in front. -/
theorem PacketView.forall_reach_sent_iff {view : PacketView} {way : Way} {after : Endpoints}
    {mtu : UInt16} {drawn : UInt32} {payload : Bytes} (target : after.source.family = .inet) :
    (∀ output ∈ view.sent way after mtu drawn payload,
        output.offset + output.totalLength ≤ maxDatagram) ↔
      view.offset + payload.length + Ipv4Fields.byteLength ≤ maxDatagram := by
  -- Each packet takes its header from what the limit leaves for payload.
  have shorter : ∀ output ∈ view.sent way after mtu drawn payload,
      (output.offset + output.totalLength ≤ maxDatagram ↔
        output.offset + output.payload.length ≤ maxDatagram - 20) := by
    intro output member
    have endpoints := (headers_sent output member).1
    rw [totalLength_inet (by rw [endpoints]; exact target), maxDatagram]
    omega
  rw [forall₂_congr shorter, covers_sent.forall_end_le_iff, maxDatagram, Ipv4Fields.byteLength]
  omega

/-! ## What is dropped -/

namespace Plan

variable {table : MappingTable} {packet : Bytes}

theorem ofIpv4_oversized {datagram : Ipv4Datagram} (read : Ipv4Datagram.read packet = .ok datagram)
    (large : maxDatagram < datagram.fields.fragmentOffset.toNat + datagram.payload.length) :
    ofIpv4 table packet = .error .oversized := by
  unfold ofIpv4
  rw [read]
  exact if_pos large

/-- Only a fragment can reach too far. -/
theorem isFragment_of_oversized {datagram : Ipv6Datagram}
    (read : Ipv6Datagram.read packet = .ok datagram)
    (large : maxDatagram < datagram.fragmentOffset.toNat + datagram.payload.length) :
    datagram.isFragment = true := by
  have short : datagram.payload.length ≤ maxDatagram := (Ipv6Datagram.sound read).length_payload
  rw [PacketView.isFragment_ofIpv6, PacketView.isFragment, Bool.or_eq_true, bne_iff_ne]
  exact .inr (show datagram.fragmentOffset.toNat ≠ 0 by omega)

/-- On the way to IPv4 fragments of messages are refused first. -/
theorem ofIpv6_oversized {datagram : Ipv6Datagram}
    (read : Ipv6Datagram.read packet = .ok datagram)
    (chosen : table.classify datagram.fields.source datagram.fields.destination = some .sixToFour)
    (large : maxDatagram < datagram.fragmentOffset.toNat + datagram.payload.length) :
    ofIpv6 table packet =
      .error (if datagram.protocol = .icmp then .fragmentedIcmp else .oversized) := by
  have fragment := isFragment_of_oversized read large
  have forwarded : isPacketTooBig datagram = false := by
    have header : datagram.fragment.isNone = false := by
      cases absent : datagram.fragment with
      | none => simp only [Ipv6Datagram.isFragment, absent] at fragment; cases fragment
      | some header => rfl
    rw [isPacketTooBig, header, Bool.and_false, Bool.false_and]
  unfold ofIpv6
  rw [read]
  simp only [forwarded, Bool.false_eq_true, if_false, chosen, forwardIpv6]
  unfold SixToFour.ofDatagram
  rw [fragment]
  by_cases message : datagram.protocol = .icmp
  · simp only [message, and_self, if_true]
  · simp only [message, false_and, if_false, large, if_true]

end Plan

namespace Translator

variable {translator : Translator} {surroundings : Surroundings} {family : Family}
  {packet : Bytes} {view : PacketView} {way : Way} {after : Endpoints}

/-- A packet that crosses between the families is dropped if its payload ends too late. -/
theorem result_of_oversized (read : PacketView.read? family packet = some view)
    (leads : translator.table.Leads way view.endpoints after) (crosses : way ≠ .sixToSix)
    (large : maxDatagram < view.offset + view.payload.length) :
    (translator.step surroundings family packet).result =
      .error (if way = .sixToFour ∧ view.protocol = .icmp then .fragmentedIcmp
        else .oversized) := by
  have refused : Plan.ofPacket translator.table family packet =
      .error (if way = .sixToFour ∧ view.protocol = .icmp then .fragmentedIcmp
        else .oversized) := by
    cases family with
    | inet =>
        obtain ⟨datagram, protocol, readable, named, rfl⟩ := PacketView.read?_inet read
        cases leads with
        | fourToSix mapped => exact Plan.ofIpv4_oversized readable large
    | inet6 =>
        obtain ⟨datagram, readable, rfl⟩ := PacketView.read?_inet6 read
        cases leads with
        | sixToFour chosen mapped =>
            refine (Plan.ofIpv6_oversized readable chosen large).trans ?_
            simp only [true_and]
            rfl
        | sixToSix chosen mapped => exact absurd rfl crosses
  unfold step
  rw [refused]

/-- **What is sent stays within a datagram that IPv6 can describe, and within one that IPv4 can
describe exactly if the header of twenty bytes fits as well.** Packets whose payload ends behind
the largest datagram are dropped. -/
theorem within_limit_iff (read : PacketView.read? family packet = some view) :
    (∀ way after, translator.table.Leads way view.endpoints after → way ≠ .sixToSix →
      maxDatagram < view.offset + view.payload.length →
      (translator.step surroundings family packet).result =
        .error (if way = .sixToFour ∧ view.protocol = .icmp then .fragmentedIcmp
          else .oversized)) ∧
    ∀ packets, (translator.step surroundings family packet).result = .ok packets →
      packets ≠ [] →
      ∃ way after outputs, translator.table.Leads way view.endpoints after ∧
        Show way.target packets outputs ∧
        (way = .fourToSix →
          ∀ output ∈ outputs, output.offset + output.payload.length ≤ maxDatagram) ∧
        (way = .sixToFour →
          ((∀ output ∈ outputs, output.offset + output.totalLength ≤ maxDatagram) ↔
            view.offset + view.payload.length + Ipv4Fields.byteLength ≤ maxDatagram)) := by
  refine ⟨fun way after leads crosses large => result_of_oversized read leads crosses large,
    fun packets accepted forwarded => ?_⟩
  obtain ⟨way, after, payload, forwards⟩ := step_forwards read accepted fun _ => forwarded
  have leads := forwards.leads
  have origin := PacketView.families read
  have length := PacketView.length_convert (origin.1.trans origin.2.symm) leads.one_target
    forwards.converted
  refine ⟨way, after, _, leads, forwards.shown, ?_, ?_⟩
  · rintro rfl
    refine (PacketView.covers_sent.forall_end_le_iff maxDatagram).mpr ?_
    rw [length]
    refine Nat.le_of_not_lt fun large => ?_
    rw [result_of_oversized read leads Way.noConfusion large] at accepted
    cases accepted
  · rintro rfl
    rw [PacketView.forall_reach_sent_iff leads.target.1, length]

end Translator

/-! ## The last bytes of a datagram -/

namespace Sample

/-- The last fragment of a datagram, on its way to IPv4. -/
def lastFragment (data : Bytes) : PacketView where
  endpoints := ⟨.v6 host.ipv6, .v6 (.embed network remote)⟩
  protocol := .udp
  hopLimit := 64
  identification := some 1
  dontFragment := true
  offset := 65512
  moreFragments := false
  payload := data

/-- The packet with that fragment. -/
def lastPacket (data : Bytes) : Bytes :=
  Ipv6Header.emit ⟨host.ipv6, .embed network remote, fragmentNumber, 64⟩ (8 + data.length) ++
    FragmentHeader.encode ⟨17, 65512, false, 1⟩ ++ data

/-- The last fragment is forwarded as it is. -/
theorem forwards_lastPacket {data : Bytes}
    (read : PacketView.read? .inet6 (lastPacket data) = some (lastFragment data))
    (fits : 65512 + data.length ≤ 65535) :
    ∃ packets, (translator.step surroundings .inet6 (lastPacket data)).result = .ok packets ∧
      translator.Forwards surroundings (lastFragment data) .sixToFour
        ⟨.v4 host.ipv4, .v4 remote⟩ data packets := by
  have leads : translator.table.Leads .sixToFour (lastFragment data).endpoints
      ⟨.v4 host.ipv4, .v4 remote⟩ := .sixToFour (by decide) rfl
  have converted : (lastFragment data).convert .sixToFour ⟨.v4 host.ipv4, .v4 remote⟩ =
      .ok data := PacketView.convert_of_offset (Nat.succ_ne_zero _)
  exact Translator.forwards_of_leads read UpperProtocol.noConfusion fits leads converted

end Sample

namespace Translator

theorem within_limit_iff_boundary :
    PacketView.read? .inet6 (Sample.lastPacket [1, 2, 3]) =
        some (Sample.lastFragment [1, 2, 3]) ∧
      ∃ packets outputs,
        (Sample.translator.step Sample.surroundings .inet6
          (Sample.lastPacket [1, 2, 3])).result = .ok packets ∧
        Show .inet packets outputs ∧
        ∀ output ∈ outputs, output.offset + output.totalLength ≤ 65535 := by
  have read : PacketView.read? .inet6 (Sample.lastPacket [1, 2, 3]) =
      some (Sample.lastFragment [1, 2, 3]) := by decide
  obtain ⟨packets, accepted, forwards⟩ := Sample.forwards_lastPacket read (by decide)
  obtain ⟨way, after, outputs, leads, shown, _, fitting⟩ :=
    (within_limit_iff read).2 packets accepted forwards.ne_nil
  obtain ⟨rfl, rfl⟩ := forwards.leads.unique leads
  exact ⟨read, packets, outputs, accepted, shown, (fitting rfl).mpr (by decide)⟩

/-- **A fragment with one byte more is accepted, and what is sent for it belongs to a datagram that
IPv4 cannot describe.** -/
theorem late_end_accepted :
    Sample.translator.Reachable ∧
      PacketView.read? .inet6 (Sample.lastPacket [0x61, 0x62, 0x63, 0x64]) =
        some (Sample.lastFragment [0x61, 0x62, 0x63, 0x64]) ∧
      ∃ packets outputs,
        (Sample.translator.step Sample.surroundings .inet6
          (Sample.lastPacket [0x61, 0x62, 0x63, 0x64])).result = .ok packets ∧
        Show .inet packets outputs ∧
        ∃ output ∈ outputs, 65535 < output.offset + output.totalLength := by
  have read : PacketView.read? .inet6 (Sample.lastPacket [0x61, 0x62, 0x63, 0x64]) =
      some (Sample.lastFragment [0x61, 0x62, 0x63, 0x64]) := by decide
  obtain ⟨packets, accepted, forwards⟩ := Sample.forwards_lastPacket read (by decide)
  refine ⟨Sample.reachable, read, packets, _, accepted, forwards.shown, ?_⟩
  refine Classical.byContradiction fun none => ?_
  have within := (PacketView.forall_reach_sent_iff rfl).mp fun output member =>
    Nat.le_of_not_lt fun far => none ⟨output, member, far⟩
  exact absurd within (by decide)

end Translator

end FamilyGateway
