import FamilyGateway.Proofs.Translator.Passage

/-!
# Echo messages end to end

An echo message that verifies over IPv4 verifies over IPv6 when the gateway has
forwarded it. The way back has one exception: the reply of which nothing but the type
and the checksum is set, on whose sum no pseudo-header is left. It becomes a message of
zeros, which verifies for no receiver (`Translator.echo_verifies_iff`,
`Translator.blank_reply_refused`). A message computed afresh would store 0xffff there,
the form of zero that UDP is given in the same place.
-/

set_option autoImplicit false

namespace FamilyGateway

open Checksum (verifies verifiesAlone)
open OutboundPacket (Show)

namespace Translator

/-- **An echo message that verifies is delivered as one that verifies, except for the blank
reply.** On the way to IPv6 it verifies under the endpoints it has there. On the way to IPv4 it
verifies without any unless it is a blank reply, and then it does not. -/
theorem echo_verifies_iff {translator : Translator} {surroundings : Surroundings}
    {family : Family} {packet : Bytes} {view : PacketView} {packets : List OutboundPacket}
    (read : PacketView.read? family packet = some view)
    (accepted : (translator.step surroundings family packet).result = .ok packets)
    (forwarded : packets ≠ []) (echo : view.protocol = .icmp) :
    ∃ way after outputs, translator.table.Leads way view.endpoints after ∧
      Show way.target packets outputs ∧
      (∀ output ∈ outputs, output.endpoints = after ∧ output.protocol = .icmp) ∧
      (way = .fourToSix → verifiesAlone view.payload = true →
        verifies after 58 (reassemble outputs) = true) ∧
      (way = .sixToFour → verifies view.endpoints 58 view.payload = true →
        ∃ message, IcmpMessage.read view.payload = .ok message ∧
          (verifiesAlone (reassemble outputs) = true ↔ ¬ Icmp.BlankReply message)) := by
  obtain ⟨way, after, payload, forwards⟩ := step_forwards read accepted fun _ => forwarded
  have leads := forwards.leads
  have short := PacketView.length_payload read
  have crosses : way ≠ .sixToSix → view.offset = 0 := by
    intro other
    rcases forwards.unfragmented echo with same | whole
    · exact absurd same other
    · simp only [PacketView.isFragment, Bool.or_eq_false_iff, bne_eq_false_iff_eq] at whole
      exact whole.2
  have converted := forwards.converted
  refine ⟨way, after, _, leads, forwards.shown, fun output member => ?_, ?_, ?_⟩
  · obtain ⟨endpoints, protocol, _⟩ := PacketView.headers_sent output member
    exact ⟨endpoints, protocol.trans echo⟩
  · rintro rfl valid
    rw [PacketView.convert_of_echo_fourToSix (crosses Way.noConfusion) echo] at converted
    rw [PacketView.reassemble_sent]
    exact Icmp.verifies_toIpv6 leads.one_target short valid converted
  · rintro rfl valid
    have same := leads.one_origin
    rw [PacketView.convert_of_echo_sixToFour (crosses Way.noConfusion) echo] at converted
    obtain ⟨message, _, encoded, _, _⟩ := Icmp.toIpv4_ok (Icmp.cross_ok same converted)
    rw [PacketView.reassemble_sent]
    rw [encoded] at converted short valid ⊢
    exact ⟨message, IcmpMessage.read_encode message,
      Icmp.verifiesAlone_toIpv4_iff same short valid converted⟩

/-- An echo reply without data on its way to IPv4. -/
def sampleReply (message : Bytes) : PacketView where
  endpoints := ⟨.v6 Sample.host.ipv6, .v6 (.embed Sample.network Sample.remote)⟩
  protocol := .icmp
  hopLimit := 64
  identification := none
  dontFragment := true
  offset := 0
  moreFragments := false
  payload := message

/-- The packet with that reply. -/
def replyPacket (message : Bytes) : Bytes :=
  Ipv6Header.emit ⟨Sample.host.ipv6, .embed Sample.network Sample.remote, 58, 64⟩
    message.length ++ message

/-- A reply in which the sequence number is one. -/
def firstReply : Bytes := [129, 0, 0x26, 0xb8, 0, 0, 0, 1]

/-- A reply in which only the type and the checksum are set. -/
def blankReply : Bytes := [129, 0, 0x26, 0xb9, 0, 0, 0, 0]

theorem echo_verifies_first :
    PacketView.read? .inet6 (replyPacket firstReply) = some (sampleReply firstReply) ∧
      verifies (sampleReply firstReply).endpoints 58 firstReply = true ∧
      ∃ packets,
        (Sample.translator.step Sample.surroundings .inet6 (replyPacket firstReply)).result =
          .ok packets ∧
        packets ≠ [] ∧
        ∃ outputs, Show .inet packets outputs ∧ verifiesAlone (reassemble outputs) = true := by
  have read : PacketView.read? .inet6 (replyPacket firstReply) =
      some (sampleReply firstReply) := by decide
  have valid : verifies (sampleReply firstReply).endpoints 58 firstReply = true := by
    decide +kernel
  obtain ⟨sender, arrived, crossing, made⟩ : ∃ sender arrived crossing,
      Plan.ofPacket Sample.translator.table .inet6 (replyPacket firstReply) =
        .ok (.toIpv4 sender arrived crossing) := ⟨_, _, _, rfl⟩
  have accepted : (Sample.translator.step Sample.surroundings .inet6
      (replyPacket firstReply)).result = .ok _ := result_of_plan made
  have forwards := forwards_toIpv4 Sample.surroundings (Plan.suits read made) rfl
  have forwarded := Forwards.ne_nil forwards
  refine ⟨read, valid, _, accepted, forwarded, ?_⟩
  obtain ⟨way, after, outputs, led, shown, _, _, delivered⟩ :=
    echo_verifies_iff read accepted forwarded rfl
  obtain ⟨rfl, rfl⟩ := forwards.leads.unique led
  obtain ⟨message, readable, verified⟩ := delivered rfl valid
  refine ⟨outputs, shown, verified.mpr fun blank => ?_⟩
  cases readable
  exact absurd blank.parameter (by decide)

/-- **The blank reply arrives, verifies, and is forwarded as a message that does not.** -/
theorem blank_reply_refused :
    PacketView.read? .inet6 (replyPacket blankReply) = some (sampleReply blankReply) ∧
      verifies (sampleReply blankReply).endpoints 58 blankReply = true ∧
      ∃ packets outputs,
        (Sample.translator.step Sample.surroundings .inet6 (replyPacket blankReply)).result =
          .ok packets ∧
        Show .inet packets outputs ∧ reassemble outputs = [0, 0, 0, 0, 0, 0, 0, 0] ∧
        verifiesAlone (reassemble outputs) = false := by
  have read : PacketView.read? .inet6 (replyPacket blankReply) =
      some (sampleReply blankReply) := by decide
  have valid : verifies (sampleReply blankReply).endpoints 58 blankReply = true := by
    decide +kernel
  obtain ⟨sender, arrived, crossing, made⟩ : ∃ sender arrived crossing,
      Plan.ofPacket Sample.translator.table .inet6 (replyPacket blankReply) =
        .ok (.toIpv4 sender arrived crossing) := ⟨_, _, _, rfl⟩
  have forwards := forwards_toIpv4 Sample.surroundings (Plan.suits read made) rfl
  refine ⟨read, valid, _, _, result_of_plan made, forwards.shown, ?_⟩
  have converted := forwards.converted
  rw [PacketView.convert_of_echo_sixToFour rfl rfl] at converted
  have zeros : Icmp.cross Icmp.toIpv4 (sampleReply blankReply).endpoints
      (sampleReply blankReply).payload = .ok [0, 0, 0, 0, 0, 0, 0, 0] := rfl
  rw [PacketView.reassemble_sent, Except.ok.inj (converted.symm.trans zeros)]
  exact ⟨rfl, by decide⟩

end Translator

end FamilyGateway
