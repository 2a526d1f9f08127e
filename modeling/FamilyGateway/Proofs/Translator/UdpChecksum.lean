import FamilyGateway.Proofs.Translator.Acceptance

/-!
# UDP checksums between the families

A UDP checksum of zero means that there is none, which IPv4 allows and IPv6 does not. So
a segment from IPv4 never arrives in IPv6 with a zero: a checksum that is there is
rewritten and a missing one is computed, and where either comes out as zero, its other form
is stored. A missing checksum cannot be computed from a fragment, and then the packet is
dropped. On the other two ways a checksum is missing afterwards exactly if it was missing
before (`PacketView.UdpRule`).

The checksum stands in the first eight bytes of the segment. However the packets that are
sent are cut, these bytes are in the one at the beginning of the datagram
(`Covers.checksumAt?_first`), so this is where a receiver finds what is said about the
segment (`Translator.udp_checksum_rule`).
-/

set_option autoImplicit false

namespace FamilyGateway

open Checksum (verifies)
open OutboundPacket (Show)

/-! ## The checksum of a segment -/

namespace Segment

variable {before after : Endpoints} {fragmented : Bool} {segment : Bytes}

theorem ne_nil_of_checksumAt? {offset : Nat} {stored : UInt16}
    (found : checksumAt? offset segment = some stored) : segment ≠ [] := by
  intro empty
  have reaches := le_length_of_checksumAt? found
  rw [empty, List.length_nil] at reaches
  omega

/-- A missing checksum is computed on the way to IPv6 if the segment is whole, and refused if
it is not. -/
theorem readdress_of_missing (found : checksumAt? 6 segment = some 0)
    (crosses : before.source.family = .inet ∧ after.source.family = .inet6)
    (same : after.source.family = after.destination.family) :
    readdress .udp before after fragmented segment =
      if fragmented then .error .zeroUdpChecksum
      else .ok (putChecksum 6 (storedForm .udp (Checksum.computed after 17 segment)) segment) := by
  have covered : ¬ (UpperProtocol.udp.number .inet6 = 1 ∧ after.source.family = .inet) := nofun
  have full : Checksum.upperLayer after.source after.destination (UpperProtocol.udp.number .inet6)
      segment = .ok (Checksum.computed after 17 segment) :=
    Checksum.upperLayer_eq same covered
  simp only [readdress, ne_nil_of_checksumAt? found, if_false, UpperProtocol.checksumOffset, found,
    and_self, if_true, crosses, full]

/-- A segment whose checksum was computed verifies. -/
theorem verifies_computed (found : checksumAt? 6 segment = some 0)
    (short : segment.length ≤ 65535) :
    verifies after 17
      (putChecksum 6 (storedForm .udp (Checksum.computed after 17 segment)) segment) = true := by
  have reaches := le_length_of_checksumAt? found
  have sum := total_putChecksum rfl found
    (storedForm .udp (Checksum.computed after 17 segment))
  rw [UInt16.toNat_zero, Nat.add_zero] at sum
  exact Checksum.verifies_of_computed (by decide) short (length_putChecksum _ reaches) sum
    (storedForm_mod .udp _)

end Segment

/-- What stands in the first eight bytes of a datagram is in the packet at its beginning, and there
is one. -/
theorem Covers.checksumAt?_first {more : Bool} {views : List PacketView} {bytes : Bytes}
    (covers : Covers more 0 views bytes) {offset : Nat} (early : offset + 2 ≤ 8)
    {stored : UInt16} (found : Segment.checksumAt? offset bytes = some stored) :
    (∃ view ∈ views, view.offset = 0) ∧
      ∀ view ∈ views, view.offset = 0 →
        Segment.checksumAt? offset view.payload = some stored := by
  cases covers with
  | last view placed flag =>
      refine ⟨⟨view, List.mem_singleton_self view, placed⟩, fun other member _ => ?_⟩
      rw [List.mem_singleton.mp member]
      exact found
  | cons view placed flag carries aligned remains later =>
      have size := List.length_pos_iff.mpr carries
      refine ⟨⟨view, List.mem_cons_self, placed⟩, fun other member start => ?_⟩
      -- More comes behind it, so it holds a multiple of eight bytes and not none.
      rcases List.mem_cons.mp member with rfl | member
      · rwa [Segment.checksumAt?_append _ (by omega)] at found
      · have behind := (later.bounds remains other member).1
        omega

/-! ## The checksum of a packet -/

namespace PacketView

/-- What becomes of the checksum of a UDP segment whose payload is converted on a way. -/
structure UdpRule (view : PacketView) (way : Way) (after : Endpoints) (payload : Bytes)
    (stored sent : UInt16) : Prop where
  stores : Segment.checksumAt? 6 view.payload = some stored
  sends : Segment.checksumAt? 6 payload = some sent
  /-- On the way to IPv6 there is a checksum afterwards. -/
  present : way = .fourToSix → sent ≠ 0
  /-- One that was missing is made up for by one that verifies. -/
  completed : way = .fourToSix → stored = 0 →
    view.moreFragments = false ∧ Checksum.verifies after 17 payload = true
  /-- On the other ways it is missing if it was missing. -/
  optional : way ≠ .fourToSix → (sent = 0 ↔ stored = 0)

variable {table : MappingTable} {view : PacketView} {way : Way} {after : Endpoints}
  {payload : Bytes}

theorem isFragment_of_first (first : view.offset = 0) : view.isFragment = view.moreFragments := by
  rw [isFragment, first, bne_self_eq_false, Bool.or_false]

/-- **A UDP segment that is converted follows the rule.** -/
theorem exists_udpRule (leads : table.Leads way view.endpoints after)
    (udp : view.protocol = .udp) (first : view.offset = 0) (carries : view.payload ≠ [])
    (short : view.payload.length ≤ 65535) (ok : view.convert way after = .ok payload) :
    ∃ stored sent, view.UdpRule way after payload stored sent := by
  have segment : view.protocol = .icmp → way = .sixToSix := by
    rw [udp]
    exact nofun
  rw [convert_of_segment first segment, udp, isFragment_of_first first] at ok
  obtain ⟨stored, found⟩ := Segment.exists_stored_of_readdress carries ok
  have reaches := Segment.le_length_of_checksumAt? found
  by_cases missing : stored = 0
  · obtain rfl := missing
    by_cases crosses : way = .fourToSix
    · rw [Segment.readdress_of_missing found (leads.crosses_iff.mpr crosses)
        leads.one_target] at ok
      cases whole : view.moreFragments with
      | true => rw [whole] at ok; cases ok
      | false =>
          rw [whole] at ok
          cases ok
          exact ⟨0, _, found, Segment.checksumAt?_putChecksum _ reaches,
            fun _ zero => Segment.storedForm_present .udp _ ⟨rfl, zero⟩,
            fun _ _ => ⟨whole, Segment.verifies_computed found short⟩,
            fun other => absurd crosses other⟩
    · rw [Segment.readdress_of_zero found (leads.crosses_iff.not.mpr crosses)] at ok
      cases ok
      exact ⟨0, 0, found, found, fun crossing => absurd crossing crosses,
        fun crossing => absurd crossing crosses, fun _ => Iff.rfl⟩
  · rw [Segment.readdress_of_stored found fun none => missing none.2] at ok
    cases ok
    have present := Segment.storedForm_present .udp
      (Checksum.adjust stored view.endpoints.sum after.sum)
    exact ⟨stored, _, found, Segment.checksumAt?_putChecksum _ reaches,
      fun _ zero => present ⟨rfl, zero⟩, fun _ zero => absurd zero missing,
      fun _ => iff_of_false (fun zero => present ⟨rfl, zero⟩) missing⟩

end PacketView

/-! ## Packets -/

/-- A segment on its way to IPv6 whose payload is refused has no plan. -/
theorem Plan.ofPacket_of_refused {table : MappingTable} {packet : Bytes} {view : PacketView}
    {after : Endpoints} {reason : DropReason} (read : PacketView.read? .inet packet = some view)
    (segment : view.protocol ≠ .icmp) (fits : view.offset + view.payload.length ≤ 65535)
    (leads : table.Leads .fourToSix view.endpoints after)
    (refused : view.convert .fourToSix after = .error reason) :
    ofPacket table .inet packet = .error reason := by
  obtain ⟨datagram, protocol, readable, named, rfl⟩ := PacketView.read?_inet read
  have segment : protocol ≠ .icmp := segment
  have stays : FourToSix.ofDatagram table datagram protocol = .error reason := by
    cases leads with
    | fourToSix mapped =>
        unfold FourToSix.ofDatagram
        rw [mapped]
        simp only [FourToSix.convertPayload_eq, refused]
        rfl
  refine (ofIpv4_of_read readable named fits).trans ?_
  rw [if_neg segment]
  simp only [forwardIpv4, stays]

namespace Translator

/-- What is sent for a packet with a UDP segment, and what has become of the checksum. -/
structure CarriesUdp (translator : Translator) (view : PacketView) (packets : List OutboundPacket)
    (way : Way) (after : Endpoints) (outputs : List PacketView) (stored sent : UInt16) :
    Prop where
  leads : translator.table.Leads way view.endpoints after
  shown : Show way.target packets outputs
  addressed : ∀ output ∈ outputs, output.endpoints = after ∧ output.protocol = .udp
  covers : Covers view.moreFragments 0 outputs (reassemble outputs)
  rule : view.UdpRule way after (reassemble outputs) stored sent
  /-- A receiver finds the checksum in the packet at the beginning of the datagram. -/
  first : ∃ output ∈ outputs, output.offset = 0
  stores : ∀ output ∈ outputs, output.offset = 0 →
    Segment.checksumAt? 6 output.payload = some sent

/-- **UDP checksums follow the rule of IPv6.** Whatever the way is, the segment that is carried on
stores a checksum as the rule asks for. A packet from IPv4 that has none is accepted, if its
destination is known, exactly if it is a whole datagram. -/
theorem udp_checksum_rule {translator : Translator} {surroundings : Surroundings}
    {family : Family} {packet : Bytes} {view : PacketView}
    (read : PacketView.read? family packet = some view) (udp : view.protocol = .udp)
    (first : view.offset = 0) (carries : view.payload ≠ []) :
    (∀ packets, (translator.step surroundings family packet).result = .ok packets →
      ∃ way after outputs stored sent,
        translator.CarriesUdp view packets way after outputs stored sent) ∧
    ∀ source destination, view.endpoints = ⟨.v4 source, .v4 destination⟩ →
      translator.table.HasIpv4 destination → Segment.checksumAt? 6 view.payload = some 0 →
      (view.moreFragments = true →
        (translator.step surroundings family packet).result = .error .zeroUdpChecksum) ∧
      (view.moreFragments = false →
        ∃ packets, (translator.step surroundings family packet).result = .ok packets) := by
  have segment : view.protocol ≠ .icmp := by
    rw [udp]
    exact nofun
  have short := PacketView.length_payload read
  have fits : view.offset + view.payload.length ≤ 65535 := by omega
  constructor
  · intro packets accepted
    obtain ⟨way, after, payload, forwards⟩ :=
      step_forwards read accepted fun message => absurd message segment
    obtain ⟨stored, sent, rule⟩ :=
      PacketView.exists_udpRule forwards.leads udp first carries short forwards.converted
    have covers : Covers view.moreFragments view.offset (view.sent way after
        (translator.pathMtu.lookup after.destination) surroundings.drawn payload) payload :=
      PacketView.covers_sent
    rw [first] at covers
    obtain ⟨start, stores⟩ := covers.checksumAt?_first (by decide) rule.sends
    refine ⟨way, after, _, stored, sent, forwards.leads, forwards.shown, ?_, ?_, ?_, start,
      stores⟩
    · intro output member
      obtain ⟨endpoints, protocol, -⟩ := PacketView.headers_sent output member
      exact ⟨endpoints, protocol.trans udp⟩
    · rw [PacketView.reassemble_sent]
      exact covers
    · rw [PacketView.reassemble_sent]
      exact rule
  · intro source destination endpoints known missing
    obtain ⟨after, leads⟩ : ∃ after,
        translator.table.Leads .fourToSix ⟨.v4 source, .v4 destination⟩ after :=
      MappingTable.exists_leads_fourToSix_iff.mpr known
    rw [← endpoints] at leads
    obtain rfl : family = .inet := (PacketView.families read).1.symm.trans leads.origin.1
    have converts : view.convert .fourToSix after =
        if view.moreFragments then .error .zeroUdpChecksum
        else .ok (Segment.putChecksum 6
          (Segment.storedForm .udp (Checksum.computed after 17 view.payload)) view.payload) := by
      rw [PacketView.convert_of_segment first fun message => absurd message segment, udp,
        PacketView.isFragment_of_first first]
      exact Segment.readdress_of_missing missing (leads.crosses_iff.mpr rfl) leads.one_target
    constructor
    · intro more
      rw [more] at converts
      unfold step
      rw [Plan.ofPacket_of_refused read segment fits leads converts]
    · intro last
      rw [last] at converts
      exact step_of_leads read segment fits leads converts

/-- A UDP segment from IPv4 that has no checksum, with data for which zero would be computed. -/
def uncheckedSegment : PacketView where
  endpoints := ⟨.v4 Sample.remote, .v4 Sample.host.ipv4⟩
  protocol := .udp
  hopLimit := 64
  identification := some 0x4d2
  dontFragment := false
  offset := 0
  moreFragments := false
  payload := [0x13, 0x88, 0, 53, 0, 10, 0, 0, 0x94, 0x19]

/-- The packet with that segment. -/
def uncheckedPacket : Bytes :=
  Ipv4Header.emit ⟨Sample.remote, Sample.host.ipv4, 17, 64, 0x4d2, false, false, 0⟩ 10 ++
    uncheckedSegment.payload

theorem udp_checksum_rule_unchecked :
    PacketView.read? .inet uncheckedPacket = some uncheckedSegment ∧
      uncheckedSegment.payload ≠ [] ∧
      Sample.translator.table.HasIpv4 Sample.host.ipv4 ∧
      Segment.checksumAt? 6 uncheckedSegment.payload = some 0 ∧
      ∃ packets,
        (Sample.translator.step Sample.surroundings .inet uncheckedPacket).result = .ok packets ∧
        ∃ outputs sent,
          Sample.translator.CarriesUdp uncheckedSegment packets .fourToSix
            ⟨.v6 (.embed Sample.network Sample.remote), .v6 Sample.host.ipv6⟩ outputs 0 sent ∧
          sent ≠ 0 ∧
          verifies ⟨.v6 (.embed Sample.network Sample.remote), .v6 Sample.host.ipv6⟩ 17
            (reassemble outputs) = true := by
  have read : PacketView.read? .inet uncheckedPacket = some uncheckedSegment := by decide
  have carries : uncheckedSegment.payload ≠ [] := by decide
  have known : Sample.translator.table.HasIpv4 Sample.host.ipv4 :=
    ⟨Sample.host, List.mem_singleton_self _, rfl⟩
  have missing : Segment.checksumAt? 6 uncheckedSegment.payload = some 0 := by decide
  have leads : Sample.translator.table.Leads .fourToSix uncheckedSegment.endpoints
      ⟨.v6 (.embed Sample.network Sample.remote), .v6 Sample.host.ipv6⟩ := .fourToSix rfl
  obtain ⟨carried, ruled⟩ :=
    @udp_checksum_rule Sample.translator Sample.surroundings _ _ _ read rfl rfl carries
  obtain ⟨packets, accepted⟩ := (ruled _ _ rfl known missing).2 rfl
  obtain ⟨way, after, outputs, stored, sent, udp⟩ := carried packets accepted
  obtain ⟨rfl, rfl⟩ := leads.unique udp.leads
  obtain rfl : 0 = stored := Option.some.inj (missing.symm.trans udp.rule.stores)
  exact ⟨read, carries, known, missing, packets, accepted, outputs, sent, udp,
    udp.rule.present rfl, (udp.rule.completed rfl rfl).2⟩

end Translator

end FamilyGateway
