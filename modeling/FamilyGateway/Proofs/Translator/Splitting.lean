import FamilyGateway.Proofs.Translator.Passage

/-!
# Nothing is lost when packets are split

The packets that are sent for one packet carry its converted payload piece by piece.
Read in the order in which they are sent, each stands where the ones before it end,
counted from where the packet that arrived stood, and only the last may say that
nothing follows (`InOrder`). Offsets are compared as numbers, so this includes that none
of them wraps around.

That holds whatever MTU is known for the path: whether the packet fits, fits but was a
fragment, or is cut (`Translator.split_in_order`).
-/

set_option autoImplicit false

namespace FamilyGateway

open OutboundPacket (Show)

/-- The packets, in this order, carry a payload that begins at `offset` of its datagram. The last
of them says that more fragments follow exactly if `more` does. -/
structure InOrder (more : Bool) (offset : Nat) (packets : List PacketView)
    (payload : Bytes) : Prop where
  joined : (packets.map PacketView.payload).flatten = payload
  placed : ∀ index (inside : index < packets.length),
    packets[index].offset =
      offset + ((packets.take index).map PacketView.payload).flatten.length
  aligned : ∀ index (inside : index < packets.length), packets[index].offset % 8 = 0
  filled : ∀ index (inside : index < packets.length), index + 1 < packets.length →
    packets[index].payload ≠ [] ∧ packets[index].payload.length % 8 = 0
  flagged : ∀ index (inside : index < packets.length),
    packets[index].moreFragments = if index + 1 = packets.length then more else true
  occupied : payload ≠ [] → ∀ packet ∈ packets, packet.payload ≠ []
  single : payload = [] → packets.length = 1

theorem Covers.inOrder {more : Bool} {offset : Nat} {packets : List PacketView}
    {payload : Bytes} (covers : Covers more offset packets payload) (first : offset % 8 = 0) :
    InOrder more offset packets payload where
  joined := covers.joined
  placed := covers.offset_getElem
  aligned index inside := covers.offset_aligned first _ (List.getElem_mem inside)
  filled := covers.aligned_getElem
  flagged := covers.moreFragments_getElem
  occupied carries packet member := (covers.bounds carries packet member).2.1
  single empty := by
    cases covers with
    | last view placed flag => rfl
    | cons view placed flag carries aligned remains later =>
        exact absurd (List.append_eq_nil_iff.mp empty).1 carries

namespace Translator

/-- **The packets that are sent carry the converted payload in order, without loss and in place.**
They have the endpoints of the other side, one protocol, one hop limit and one identification:
over IPv6 that of the packet that arrived unless it is zero, over IPv4 its low half. Only a
packet that is no fragment and goes to IPv6 in one piece is sent without an identification, and
only one that had none and goes to IPv4 in one piece must not be cut again. Of the accepted packets
this leaves out the messages for which nothing is sent. -/
theorem split_in_order {translator : Translator} {surroundings : Surroundings}
    {family : Family} {packet : Bytes} {view : PacketView} {packets : List OutboundPacket}
    (read : PacketView.read? family packet = some view)
    (accepted : (translator.step surroundings family packet).result = .ok packets)
    (forwarded : view.protocol = .icmp → packets ≠ []) :
    ∃ way after payload outputs, translator.table.Leads way view.endpoints after ∧
      view.convert way after = .ok payload ∧
      Show way.target packets outputs ∧
      InOrder view.moreFragments view.offset outputs payload ∧
      (∀ output ∈ outputs, output.endpoints = after ∧ output.protocol = view.protocol ∧
        output.hopLimit = view.hopLimit) ∧
      (∃ identification, (∀ output ∈ outputs, output.identification = identification) ∧
        (way = .fourToSix →
          identification = none ∧ outputs.length = 1 ∧ view.isFragment = false ∨
            ∃ number, identification = some number ∧
              ∀ arrived, view.identification = some arrived → arrived ≠ 0 → number = arrived) ∧
        (way = .sixToFour → ∃ number : UInt32, identification = some number ∧
          ∀ arrived, view.identification = some arrived →
            number.toNat = arrived.toNat % 65536)) ∧
      (way = .sixToFour → ∀ output ∈ outputs, output.dontFragment = true →
        outputs.length = 1 ∧ view.identification = none) := by
  obtain ⟨way, after, payload, forwards⟩ := step_forwards read accepted forwarded
  refine ⟨way, after, payload, _, forwards.leads, forwards.converted, forwards.shown,
    PacketView.covers_sent.inOrder (PacketView.offset_aligned read), PacketView.headers_sent,
    ?_, ?_⟩
  · rcases view.identification_sent way after _ _ payload with
      shared | ⟨rfl, plain, single, without⟩
    · refine ⟨_, shared, ?_, ?_⟩
      · rintro rfl
        refine .inr ⟨_, rfl, fun arrived known present => ?_⟩
        rw [known, Option.getD_some, if_neg fun zero => present (Option.some.inj zero)]
      · rintro rfl
        refine ⟨_, rfl, fun arrived known => ?_⟩
        rw [known, Option.getD_some, UInt16.toNat_toUInt32, UInt32.toNat_toUInt16]
    · exact ⟨none, without, fun _ => .inl ⟨rfl, single, plain⟩, Way.noConfusion⟩
  · rintro rfl
    exact PacketView.dontFragment_sent

/-- A fragment near the end of the largest datagram, on its way to a host behind a small MTU. -/
def lateFragment : PacketView where
  endpoints := ⟨.v6 Sample.host.ipv6, .v6 (.embed Sample.network Sample.remote)⟩
  protocol := .udp
  hopLimit := 64
  identification := some 0xabcd1234
  dontFragment := true
  offset := 65400
  moreFragments := true
  payload := List.replicate 120 0x61

/-- The packet with that fragment. -/
def latePacket : Bytes :=
  Ipv6Header.emit ⟨Sample.host.ipv6, .embed Sample.network Sample.remote, fragmentNumber, 64⟩ 128 ++
    FragmentHeader.encode ⟨17, 65400, true, 0xabcd1234⟩ ++ lateFragment.payload

theorem split_in_order_late :
    (PacketView.read? .inet6 latePacket = some lateFragment ∧
      ∃ packets,
        (Sample.translator.step Sample.surroundings .inet6 latePacket).result = .ok packets ∧
        packets ≠ [] ∧
        ∃ outputs, Show .inet packets outputs ∧
          InOrder true 65400 outputs (List.replicate 120 0x61) ∧
          ∀ output ∈ outputs, output.identification = some 0x1234) ∧
      PacketView.read? .inet Sample.longPacket = some Sample.longFragment ∧
      ∃ packets,
        (Sample.translator.step Sample.surroundings .inet Sample.longPacket).result =
          .ok packets ∧
        ∃ outputs, Show .inet6 packets outputs ∧
          InOrder true 800 outputs (List.replicate 1456 0x61) ∧
          ∀ output ∈ outputs, output.identification = some 0xbeef := by
  constructor
  · have read : PacketView.read? .inet6 latePacket = some lateFragment := by decide +kernel
    have leads : Sample.translator.table.Leads .sixToFour lateFragment.endpoints
        ⟨.v4 Sample.host.ipv4, .v4 Sample.remote⟩ := .sixToFour (by decide) rfl
    have converted : lateFragment.convert .sixToFour
        ⟨.v4 Sample.host.ipv4, .v4 Sample.remote⟩ = .ok (List.replicate 120 0x61) :=
      PacketView.convert_of_offset (by decide)
    obtain ⟨packets, accepted⟩ : ∃ packets,
        (Sample.translator.step Sample.surroundings .inet6 latePacket).result = .ok packets :=
      step_of_leads read (by decide) (by decide) leads converted
    have forwarded := ne_nil_of_accepted read accepted UpperProtocol.noConfusion
    refine ⟨read, packets, accepted, forwarded, ?_⟩
    obtain ⟨way, after, payload, outputs, led, carried, shown, order, _, identified, _⟩ :=
      split_in_order read accepted UpperProtocol.noConfusion
    obtain ⟨rfl, rfl⟩ := leads.unique led
    cases converted.symm.trans carried
    obtain ⟨identification, shared, _, low⟩ := identified
    obtain ⟨number, rfl, value⟩ := low rfl
    obtain rfl : number = 0x1234 := UInt32.toNat_inj.mp (value 0xabcd1234 rfl)
    exact ⟨outputs, shown, order, shared⟩
  · obtain ⟨packets, accepted⟩ := Sample.accepted_longPacket Sample.surroundings
    refine ⟨Sample.read_longPacket, packets, accepted, ?_⟩
    obtain ⟨way, after, payload, outputs, led, carried, shown, order, _, identified, _⟩ :=
      split_in_order Sample.read_longPacket accepted UpperProtocol.noConfusion
    obtain ⟨rfl, rfl⟩ := Sample.leads_longFragment.unique led
    cases Sample.convert_longFragment.symm.trans carried
    obtain ⟨identification, shared, kept, _⟩ := identified
    rcases kept rfl with ⟨-, -, whole⟩ | ⟨number, rfl, same⟩
    · exact absurd whole (by decide)
    · obtain rfl := same 0xbeef rfl (by decide)
      exact ⟨outputs, shown, order, shared⟩

end Translator

end FamilyGateway
