import FamilyGateway.Proofs.Translator.Passage

/-!
# Checksums end to end

The transport checksum of a datagram that is forwarded is neither repaired nor broken:
what the receiver puts together differs from what the sender sent in the two bytes of
the checksum only, and it verifies under the endpoints of the receiver's side exactly
if it verified under those of the sender's side (`Translator.checksum_preserved`).

The checksum is rewritten from its old value and the two sums of endpoints alone, so
the equivalence is one of residues modulo 65535. That no sum of a pseudo-header is
zero makes the residue decide, whichever of its two forms a zero has.
-/

set_option autoImplicit false

namespace FamilyGateway

open Checksum (verifies)
open OutboundPacket (Show)

variable {view : PacketView} {way : Way} {after : Endpoints} {payload : Bytes}

namespace PacketView

/-- Conversion of a segment that stores a checksum writes two bytes. -/
theorem convert_of_stored (first : view.offset = 0) (carries : view.payload ≠ [])
    (covered : view.protocol = .icmp → way = .sixToSix)
    (present : view.protocol = .udp →
      Segment.checksumAt? view.protocol.checksumOffset view.payload ≠ some 0)
    (ok : view.convert way after = .ok payload) :
    ∃ stored, Segment.checksumAt? view.protocol.checksumOffset view.payload = some stored ∧
      payload = Segment.putChecksum view.protocol.checksumOffset
        (Segment.storedForm view.protocol
          (Checksum.adjust stored view.endpoints.sum after.sum)) view.payload := by
  rw [convert_of_segment first covered] at ok
  obtain ⟨stored, found⟩ := Segment.exists_stored_of_readdress carries ok
  have written : ¬ (view.protocol = .udp ∧ stored = 0) := by
    rintro ⟨udp, rfl⟩
    exact present udp found
  rw [Segment.readdress_of_stored found written] at ok
  cases ok
  exact ⟨stored, found, rfl⟩

end PacketView

namespace Translator

/-- **A datagram that is forwarded keeps its bytes outside the checksum, and verifies after the
translation exactly if it verified before.** The packets that are sent are fragments of one whole
datagram. TCP and UDP may take any way, an ICMP message that is not absorbed stays within IPv6,
and a UDP checksum is not left out. -/
theorem checksum_preserved {translator : Translator} {surroundings : Surroundings}
    {family : Family} {packet : Bytes} {packets : List OutboundPacket}
    (read : PacketView.read? family packet = some view)
    (accepted : (translator.step surroundings family packet).result = .ok packets)
    (first : view.offset = 0) (last : view.moreFragments = false) (carries : view.payload ≠ [])
    (covered : view.protocol = .icmp →
      packets ≠ [] ∧ ∃ after, translator.table.Leads .sixToSix view.endpoints after)
    (present : view.protocol = .udp →
      Segment.checksumAt? view.protocol.checksumOffset view.payload ≠ some 0) :
    ∃ way after outputs, translator.table.Leads way view.endpoints after ∧
      Show way.target packets outputs ∧
      (∀ output ∈ outputs, output.endpoints = after ∧ output.protocol = view.protocol) ∧
      Covers false 0 outputs (reassemble outputs) ∧
      (reassemble outputs).length = view.payload.length ∧
      (∀ index, index ≠ view.protocol.checksumOffset →
        index ≠ view.protocol.checksumOffset + 1 →
          (reassemble outputs)[index]? = view.payload[index]?) ∧
      verifies after (view.protocol.number way.target) (reassemble outputs) =
        verifies view.endpoints (view.protocol.number family) view.payload := by
  obtain ⟨way, after, payload, forwards⟩ :=
    step_forwards read accepted fun message => (covered message).1
  have leads := forwards.leads
  have within : view.protocol = .icmp → way = .sixToSix := by
    intro message
    obtain ⟨_, other⟩ := (covered message).2
    exact (other.unique leads).1
  obtain ⟨stored, found, rfl⟩ :=
    PacketView.convert_of_stored first carries within present forwards.converted
  have reaches := Segment.le_length_of_checksumAt? found
  have origin : family = way.origin := (PacketView.families read).1.symm.trans leads.origin.1
  have number : view.protocol.number way.target = view.protocol.number family :=
    UpperProtocol.number_eq fun message => by rw [origin, within message]; rfl
  refine ⟨way, after, _, leads, forwards.shown, fun output member => ?_, ?_, ?_, ?_, ?_⟩
  · obtain ⟨endpoints, protocol, _⟩ := PacketView.headers_sent output member
    exact ⟨endpoints, protocol⟩
  · rw [PacketView.reassemble_sent, ← first, ← last]
    exact PacketView.covers_sent
  · rw [PacketView.reassemble_sent]
    exact Segment.length_putChecksum _ reaches
  · intro index notFirst notSecond
    rw [PacketView.reassemble_sent]
    exact Segment.getElem?_putChecksum _ reaches notFirst notSecond
  · have short := PacketView.length_payload read
    rw [PacketView.reassemble_sent, number]
    exact Segment.verifies_putChecksum (UpperProtocol.number_ne_zero _ _) short found

/-- A UDP segment of odd length on its way to IPv4, in a packet that has a Fragment header and
is no fragment. -/
def oddSegment : PacketView where
  endpoints := ⟨.v6 Sample.host.ipv6, .v6 (.embed Sample.network Sample.remote)⟩
  protocol := .udp
  hopLimit := 64
  identification := some 0x12345
  dontFragment := true
  offset := 0
  moreFragments := false
  payload := [0x13, 0x88, 0, 53, 0, 9, 0x33, 0x1b, 0x61]

/-- The packet with that segment. -/
def oddPacket : Bytes :=
  Ipv6Header.emit ⟨Sample.host.ipv6, .embed Sample.network Sample.remote, fragmentNumber, 64⟩ 17 ++
    FragmentHeader.encode ⟨17, 0, false, 0x12345⟩ ++ oddSegment.payload

theorem checksum_preserved_odd :
    PacketView.read? .inet6 oddPacket = some oddSegment ∧
      oddSegment.payload ≠ [] ∧
      Segment.checksumAt? oddSegment.protocol.checksumOffset oddSegment.payload ≠ some 0 ∧
      ∃ packets,
        (Sample.translator.step Sample.surroundings .inet6 oddPacket).result = .ok packets ∧
        ∃ way after outputs, Sample.translator.table.Leads way oddSegment.endpoints after ∧
          Show way.target packets outputs ∧
          (∀ output ∈ outputs, output.endpoints = after ∧ output.protocol = .udp) ∧
          Covers false 0 outputs (reassemble outputs) ∧
          (reassemble outputs).length = 9 ∧
          (∀ index, index ≠ 6 → index ≠ 7 →
            (reassemble outputs)[index]? = oddSegment.payload[index]?) ∧
          verifies after 17 (reassemble outputs) =
            verifies oddSegment.endpoints 17 oddSegment.payload := by
  have read : PacketView.read? .inet6 oddPacket = some oddSegment := by decide
  have carries : oddSegment.payload ≠ [] := by decide
  have present : Segment.checksumAt? oddSegment.protocol.checksumOffset oddSegment.payload ≠
      some 0 := by decide
  obtain ⟨packets, accepted⟩ : ∃ packets,
      (Sample.translator.step Sample.surroundings .inet6 oddPacket).result = .ok packets :=
    ⟨_, rfl⟩
  refine ⟨read, carries, present, packets, accepted, ?_⟩
  obtain ⟨way, after, outputs, leads, shown, headers, covers, length, same, verified⟩ :=
    checksum_preserved read accepted rfl rfl carries UpperProtocol.noConfusion fun _ => present
  have number : oddSegment.protocol.number way.target = 17 := by cases way <;> rfl
  rw [number] at verified
  exact ⟨way, after, outputs, leads, shown, headers, covers, length, same, verified⟩

end Translator

end FamilyGateway
