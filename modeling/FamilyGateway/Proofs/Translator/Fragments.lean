import Mathlib.Data.List.Perm.Basic
import FamilyGateway.Proofs.Translator.Passage

/-!
# Fragments of a datagram

A datagram may be cut into fragments before it arrives. They arrive in any order, with
other packets between them, and each may be cut once more. What the receiver puts
together of all the packets that are sent is what it would have got if the datagram had
arrived whole (`Translator.fragments_commute`).

Only the first fragment is changed, in its checksum, and this is the change that the
whole datagram would have undergone, because it depends on the endpoints and the old
checksum only (`PacketView.convert_fragments`). Each fragment is replaced by packets that
carry as many bytes in its place, and so all of them together cover the datagram.
-/

set_option autoImplicit false

namespace FamilyGateway

open OutboundPacket (Show)

/-! ## The payloads of fragments -/

namespace PacketView

variable {view : PacketView} {way : Way} {after : Endpoints} {payload : Bytes}

/-- The payload of a packet once it is on its way. -/
def carried (view : PacketView) (way : Way) (after : Endpoints) : Bytes :=
  (view.convert way after).toOption.getD []

theorem carried_of_ok (ok : view.convert way after = .ok payload) :
    view.carried way after = payload := by
  rw [carried, ok]
  rfl

/-- **The payloads of fragments are converted to parts of the payload of the datagram.** -/
theorem convert_fragments {whole : PacketView} {cut : List PacketView}
    (segment : whole.protocol ≠ .icmp) (first : whole.offset = 0)
    (converted : whole.convert way after = .ok payload)
    (covers : Covers false 0 cut whole.payload) (several : 2 ≤ cut.length)
    (same : ∀ piece ∈ cut, piece.endpoints = whole.endpoints ∧ piece.protocol = whole.protocol)
    (reaches : ∀ piece ∈ cut, piece.offset = 0 →
      whole.protocol.checksumOffset + 2 ≤ piece.payload.length)
    (present : whole.endpoints.source.family = .inet → whole.protocol = .udp →
      Segment.checksumAt? whole.protocol.checksumOffset whole.payload ≠ some 0) :
    (∀ piece ∈ cut, piece.convert way after = .ok (piece.carried way after)) ∧
      cut.flatMap (fun piece => piece.carried way after) = payload := by
  rw [convert_of_segment first fun message => absurd message segment] at converted
  generalize body : whole.payload = bytes at covers converted present
  cases covers with
  | last view placed flag => exact absurd several (Nat.not_succ_le_self 1)
  | @cons _ rest bytes view placed flag carries aligned remains later =>
      obtain ⟨endpoints, protocol⟩ := same view List.mem_cons_self
      have reach := reaches view List.mem_cons_self placed
      obtain ⟨front, readdressed, rfl⟩ : ∃ front,
          Segment.readdress whole.protocol whole.endpoints after view.isFragment view.payload =
            .ok front ∧ payload = front ++ bytes := by
        refine Segment.readdress_append reach (fun inet _ udp => ?_) converted
        rw [← Segment.checksumAt?_append bytes reach]
        exact present inet udp
      have firstConverted : view.convert way after = .ok front := by
        rw [convert_of_segment placed fun message => absurd (protocol.symm.trans message) segment,
          protocol, endpoints]
        exact readdressed
      have restConverted : ∀ piece ∈ rest, piece.convert way after = .ok piece.payload := by
        intro piece member
        have size := List.length_pos_iff.mpr carries
        have beyond := (later.bounds remains piece member).1
        exact convert_of_offset (by omega)
      refine ⟨fun piece member => ?_, ?_⟩
      · rcases List.mem_cons.mp member with rfl | member
        · rw [carried_of_ok firstConverted, firstConverted]
        · rw [carried_of_ok (restConverted piece member), restConverted piece member]
      · have unchanged : rest.map (fun piece => piece.carried way after) =
            rest.map PacketView.payload :=
          List.map_congr_left fun piece member => carried_of_ok (restConverted piece member)
        rw [List.flatMap_cons, carried_of_ok firstConverted, List.flatMap_def, unchanged,
          later.joined]

end PacketView

/-! ## Fragments that arrive -/

theorem OutboundPacket.show_flatMap {α : Type} {family : Family} {items : List α}
    {packets : α → List OutboundPacket} {views : α → List PacketView}
    (each : ∀ item ∈ items, Show family (packets item) (views item)) :
    Show family (items.flatMap packets) (items.flatMap views) := by
  induction items with
  | nil => rfl
  | cons item rest ih =>
      have first := each item List.mem_cons_self
      have later := ih fun other member => each other (List.mem_cons_of_mem item member)
      unfold Show at first later ⊢
      rw [List.flatMap_cons, List.flatMap_cons, List.filter_append, List.map_append,
        List.map_append, first, later]

/-- A packet with the state and the surroundings in which it is treated. -/
structure Treatment (family : Family) where
  translator : Translator
  surroundings : Surroundings
  packet : Bytes
  view : PacketView
  readable : PacketView.read? family packet = some view

namespace Treatment

variable {family : Family}

/-- What the treatment leads to. -/
def outcome (treatment : Treatment family) : Except DropReason (List OutboundPacket) :=
  (treatment.translator.step treatment.surroundings family treatment.packet).result

/-- The packets that are sent for it. -/
def packets (treatment : Treatment family) : List OutboundPacket :=
  treatment.outcome.toOption.getD []

/-- What they show if the packet is forwarded. -/
def sent (way : Way) (after : Endpoints) (treatment : Treatment family) : List PacketView :=
  treatment.view.sent way after (treatment.translator.pathMtu.lookup after.destination)
    treatment.surroundings.drawn (treatment.view.carried way after)

/-- A segment that can be converted and is led somewhere is forwarded. -/
theorem forwarded {treatment : Treatment family} {way : Way} {after : Endpoints}
    (segment : treatment.view.protocol ≠ .icmp)
    (fits : treatment.view.offset + treatment.view.payload.length ≤ 65535)
    (leads : treatment.translator.table.Leads way treatment.view.endpoints after)
    (converted : treatment.view.convert way after = .ok (treatment.view.carried way after)) :
    treatment.outcome = .ok treatment.packets ∧
      Show way.target treatment.packets (treatment.sent way after) := by
  obtain ⟨packets, outcome, shown⟩ : ∃ packets, treatment.outcome = .ok packets ∧
      Show way.target packets (treatment.sent way after) :=
    Translator.step_segment treatment.readable segment fits leads converted
  have same : treatment.packets = packets := by
    rw [Treatment.packets, outcome]
    rfl
  rw [same]
  exact ⟨outcome, shown⟩

/-- All packets that are sent for a fragment with an identification have one identification,
which depends on the way only. -/
theorem identification_sent (way : Way) (after : Endpoints) {identification : UInt32}
    (present : way = .fourToSix → identification ≠ 0) :
    ∃ shared, ∀ treatment : Treatment family, treatment.view.isFragment = true →
      treatment.view.identification = some identification →
        ∀ output ∈ treatment.sent way after, output.identification = some shared := by
  obtain ⟨shared, settled⟩ : ∃ shared, ∀ drawn,
      way.identification drawn (some identification) = some shared := by
    cases way with
    | fourToSix =>
        refine ⟨identification, fun drawn => ?_⟩
        rw [Way.identification, if_neg fun zero => present rfl (Option.some.inj zero)]
        rfl
    | sixToFour => exact ⟨identification.toUInt16.toUInt32, fun drawn => rfl⟩
    | sixToSix => exact ⟨identification, fun drawn => rfl⟩
  refine ⟨shared, fun treatment fragment known output member => ?_⟩
  rcases treatment.view.identification_sent way after _ treatment.surroundings.drawn _ with
    same | ⟨_, plain, _⟩
  · rw [same output member, known, settled]
  · exact absurd (fragment.symm.trans plain) Bool.noConfusion

/-- The packets that are sent for packets that cover a datagram cover one, in whatever order
these are treated. -/
theorem covers_sent {way : Way} {after : Endpoints} {more : Bool} {offset : Nat}
    {cut : List PacketView} {bytes : Bytes} {treatments : List (Treatment family)}
    (covers : Covers more offset cut bytes) (carries : bytes ≠ [])
    (arrived : (treatments.map view).Perm cut)
    (length : ∀ piece ∈ cut, (piece.carried way after).length = piece.payload.length) :
    ∃ ordered, ordered.Perm (treatments.flatMap (sent way after)) ∧
      Covers more offset ordered (cut.flatMap fun piece => piece.carried way after) := by
  obtain ⟨inPlace, rfl, arranged⟩ : ∃ inPlace : List (Treatment family),
      cut = inPlace.map view ∧ inPlace.Perm treatments := by
    have lifted : Relation.Comp (· = List.map view ·) List.Perm cut treatments := by
      rw [List.eq_map_comp_perm]
      exact arrived.symm
    exact lifted
  obtain ⟨covered, _⟩ := covers.refine carries fun treatment member =>
    ⟨PacketView.covers_sent, length _ (List.mem_map_of_mem member)⟩
  rw [List.flatMap_map]
  exact ⟨_, arranged.flatMap_right _, covered⟩

end Treatment

namespace Translator

/-- **Translation commutes with fragmentation.** A segment is accepted whole, and the packets for
it show `wholeOutputs`. Its fragments, of which the first reaches the checksum, are treated in any
order, each in some state that the translator reaches. Then each of them is accepted, and all
packets that are sent for them have one identification, cover the datagram, and are put together
to what is put together of `wholeOutputs`. From IPv4 the identification must not be zero, and a
UDP checksum not left out. -/
theorem fragments_commute {translator : Translator} {surroundings : Surroundings}
    {family : Family} {packet : Bytes} {whole : PacketView} {packets : List OutboundPacket}
    (read : PacketView.read? family packet = some whole)
    (accepted : (translator.step surroundings family packet).result = .ok packets)
    (segment : whole.protocol ≠ .icmp) (first : whole.offset = 0)
    (last : whole.moreFragments = false)
    {cut : List PacketView} (covers : Covers false 0 cut whole.payload)
    (several : 2 ≤ cut.length) {identification : UInt32}
    (same : ∀ piece ∈ cut, piece.endpoints = whole.endpoints ∧
      piece.protocol = whole.protocol ∧ piece.identification = some identification)
    (reaches : ∀ piece ∈ cut, piece.offset = 0 →
      whole.protocol.checksumOffset + 2 ≤ piece.payload.length)
    (fromIpv4 : family = .inet → identification ≠ 0 ∧ (whole.protocol = .udp →
      Segment.checksumAt? whole.protocol.checksumOffset whole.payload ≠ some 0))
    {treatments : List (Treatment family)} (arrived : (treatments.map Treatment.view).Perm cut)
    (reached : ∀ treatment ∈ treatments, translator.Reaches treatment.translator) :
    ∃ way after wholeOutputs outputs, translator.table.Leads way whole.endpoints after ∧
      Show way.target packets wholeOutputs ∧
      Covers false 0 wholeOutputs (reassemble wholeOutputs) ∧
      (reassemble wholeOutputs).length = whole.payload.length ∧
      (∀ treatment ∈ treatments, treatment.outcome = .ok treatment.packets) ∧
      Show way.target (treatments.flatMap Treatment.packets) outputs ∧
      (∃ shared, ∀ output ∈ outputs, output.identification = some shared) ∧
      (∃ ordered, ordered.Perm outputs ∧ Covers false 0 ordered (reassemble wholeOutputs)) ∧
      (∀ output ∈ outputs, output.moreFragments = false ↔
        output.offset + output.payload.length = whole.payload.length) ∧
      reassemble outputs = reassemble wholeOutputs := by
  obtain ⟨way, after, payload, forwards⟩ :=
    step_forwards read accepted fun message => absurd message segment
  have leads := forwards.leads
  have length := PacketView.length_convert leads.one_origin leads.one_target forwards.converted
  have origin : family = way.origin := (PacketView.families read).1.symm.trans leads.origin.1
  obtain ⟨converted, joined⟩ := PacketView.convert_fragments segment first forwards.converted
    covers several (fun piece member => ⟨(same piece member).1, (same piece member).2.1⟩) reaches
    fun inet udp => (fromIpv4 ((PacketView.families read).1.symm.trans inet)).2 udp
  have carries := covers.carries_of_several several
  have bound := PacketView.length_payload read
  have fromCut : ∀ treatment ∈ treatments, treatment.view ∈ cut := fun treatment member =>
    arrived.subset (List.mem_map_of_mem member)
  have treated : ∀ treatment ∈ treatments, treatment.outcome = .ok treatment.packets ∧
      Show way.target treatment.packets (treatment.sent way after) := by
    intro treatment member
    obtain ⟨endpoints, protocol, _⟩ := same _ (fromCut treatment member)
    obtain ⟨_, _, within⟩ := covers.bounds carries _ (fromCut treatment member)
    refine Treatment.forwarded ?_ (by omega) ?_ (converted _ (fromCut treatment member))
    · rw [protocol]
      exact segment
    · rw [(reached treatment member).table, endpoints]
      exact leads
  have lengths : ∀ piece ∈ cut, (piece.carried way after).length = piece.payload.length := by
    intro piece member
    refine PacketView.length_convert ?_ leads.one_target (converted piece member)
    rw [(same piece member).1]
    exact leads.one_origin
  obtain ⟨ordered, rearranged, covered⟩ := Treatment.covers_sent covers carries arrived lengths
  rw [joined] at covered
  obtain ⟨shared, identified⟩ := Treatment.identification_sent way after fun crossing =>
    (fromIpv4 (origin.trans (congrArg Way.origin crossing))).1
  refine ⟨way, after, _, treatments.flatMap (Treatment.sent way after), leads, forwards.shown,
    ?_, ?_, fun treatment member => (treated treatment member).1,
    OutboundPacket.show_flatMap fun treatment member => (treated treatment member).2,
    ⟨shared, ?_⟩, ⟨ordered, rearranged, ?_⟩, ?_, ?_⟩
  · rw [PacketView.reassemble_sent, ← first, ← last]
    exact PacketView.covers_sent
  · rw [PacketView.reassemble_sent]
    exact length
  · intro output member
    obtain ⟨treatment, treats, sent⟩ := List.mem_flatMap.mp member
    have piece := fromCut treatment treats
    exact identified treatment (covers.isFragment several _ piece) (same _ piece).2.2 output sent
  · rw [PacketView.reassemble_sent]
    exact covered
  · intro output member
    have notEmpty : payload ≠ [] := List.length_pos_iff.mp
      (Nat.lt_of_lt_of_eq (List.length_pos_iff.mpr carries) length.symm)
    obtain ⟨_, _, within⟩ := covered.bounds notEmpty output (rearranged.symm.subset member)
    rcases within with ⟨inside, flag⟩ | ⟨ending, flag⟩
    · exact ⟨fun none => absurd (flag.symm.trans none) Bool.noConfusion, by omega⟩
    · exact ⟨fun _ => by omega, fun _ => flag⟩
  · rw [PacketView.reassemble_sent]
    exact covered.reassemble_of_perm rearranged.symm

/-- A UDP packet from IPv4 that carries a part of a datagram. -/
def samplePart (offset : Nat) (moreFragments : Bool) (payload : Bytes) : PacketView where
  endpoints := ⟨.v4 Sample.remote, .v4 Sample.host.ipv4⟩
  protocol := .udp
  hopLimit := 64
  identification := some 0x4d2
  dontFragment := false
  offset := offset
  moreFragments := moreFragments
  payload := payload

/-- The bytes of that packet. -/
def samplePacket (part : PacketView) : Bytes :=
  let header : Ipv4Header :=
    { source := Sample.remote
      destination := Sample.host.ipv4
      protocol := 17
      timeToLive := 64
      identification := 0x4d2
      dontFragment := false
      moreFragments := part.moreFragments
      fragmentOffset := UInt16.ofNat part.offset }
  header.emit part.payload.length ++ part.payload

/-- The first fragment of a UDP datagram, down to the end of the UDP header. -/
def sampleHead : PacketView := samplePart 0 true [0x13, 0x88, 0, 53, 0, 21, 0xbe, 0xef]

/-- The second fragment. -/
def sampleBody : PacketView := samplePart 8 true [1, 2, 3, 4, 5, 6, 7, 8]

/-- The last fragment, of odd length. -/
def sampleTail : PacketView := samplePart 16 false [9, 10, 11, 12, 13]

/-- The whole datagram. -/
def sampleWhole : PacketView :=
  samplePart 0 false (sampleHead.payload ++ (sampleBody.payload ++ sampleTail.payload))

/-- The fragments as they arrive: last, first, and second after the whole datagram has been
treated. -/
def sampleTreatments : List (Treatment .inet) :=
  [⟨Sample.translator, Sample.surroundings, samplePacket sampleTail, sampleTail, by decide⟩,
    ⟨Sample.translator, Sample.surroundings, samplePacket sampleHead, sampleHead, by decide⟩,
    ⟨(Sample.translator.step Sample.surroundings .inet (samplePacket sampleWhole)).translator,
      Sample.surroundings, samplePacket sampleBody, sampleBody, by decide⟩]

theorem fragments_commute_sample :
    PacketView.read? .inet (samplePacket sampleWhole) = some sampleWhole ∧
      Covers false 0 [sampleHead, sampleBody, sampleTail] sampleWhole.payload ∧
      (sampleTreatments.map Treatment.view).Perm [sampleHead, sampleBody, sampleTail] ∧
      ∃ packets way after wholeOutputs outputs,
        (Sample.translator.step Sample.surroundings .inet (samplePacket sampleWhole)).result =
          .ok packets ∧
        Sample.translator.table.Leads way sampleWhole.endpoints after ∧
        Show way.target packets wholeOutputs ∧
        Covers false 0 wholeOutputs (reassemble wholeOutputs) ∧
        (reassemble wholeOutputs).length = sampleWhole.payload.length ∧
        (∀ treatment ∈ sampleTreatments, treatment.outcome = .ok treatment.packets) ∧
        Show way.target (sampleTreatments.flatMap Treatment.packets) outputs ∧
        (∃ shared, ∀ output ∈ outputs, output.identification = some shared) ∧
        (∃ ordered, ordered.Perm outputs ∧ Covers false 0 ordered (reassemble wholeOutputs)) ∧
        (∀ output ∈ outputs, output.moreFragments = false ↔
          output.offset + output.payload.length = sampleWhole.payload.length) ∧
        reassemble outputs = reassemble wholeOutputs := by
  have read : PacketView.read? .inet (samplePacket sampleWhole) = some sampleWhole := by decide
  have covers : Covers false 0 [sampleHead, sampleBody, sampleTail] sampleWhole.payload := by
    refine .cons sampleHead rfl rfl (by decide) rfl (by decide) ?_
    refine .cons sampleBody rfl rfl (by decide) rfl (by decide) ?_
    exact .last sampleTail rfl rfl
  have arrived :
      (sampleTreatments.map Treatment.view).Perm [sampleHead, sampleBody, sampleTail] := by
    decide
  obtain ⟨packets, accepted⟩ : ∃ packets,
      (Sample.translator.step Sample.surroundings .inet (samplePacket sampleWhole)).result =
        .ok packets := ⟨_, rfl⟩
  refine ⟨read, covers, arrived, packets, ?_⟩
  have same : ∀ piece ∈ [sampleHead, sampleBody, sampleTail],
      piece.endpoints = sampleWhole.endpoints ∧ piece.protocol = sampleWhole.protocol ∧
        piece.identification = some 0x4d2 := by decide
  have reached : ∀ treatment ∈ sampleTreatments,
      Sample.translator.Reaches treatment.translator := by
    simp only [sampleTreatments, List.forall_mem_cons]
    exact ⟨.start, .start, .step .start _ _ _, fun _ member => absurd member List.not_mem_nil⟩
  obtain ⟨way, after, wholeOutputs, outputs, facts⟩ :=
    fragments_commute read accepted (by decide) rfl rfl covers (by decide) same (by decide)
      (fun _ => by decide) arrived reached
  exact ⟨way, after, wholeOutputs, outputs, accepted, facts⟩

end Translator

end FamilyGateway
