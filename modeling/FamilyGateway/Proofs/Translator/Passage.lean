import FamilyGateway.Proofs.Translator.Crossings
import FamilyGateway.Proofs.Translator.Plans

/-!
# Accepted packets

A packet that is accepted either is an ICMP message for the gateway, and then nothing
is sent, or it is forwarded: the table leads it along a way, its payload is converted,
and of the packets that are sent those of the target family show what should be sent
(`Translator.step_accepted`). A notice to the sender is of the other family, so it is
not among them.

The plan for a packet is the only place where a packet is looked at. What a plan says
about the packet it was made for is `Plan.Suits`, and carrying out a plan that suits a
packet is a matter of the plan alone. Where notices matter as well, `Translator.Sends`
tells them from the packets that carry the payload on. Conversely a segment that the table
leads somewhere and that can be converted is accepted (`Translator.step_of_leads`).
-/

set_option autoImplicit false

namespace FamilyGateway

open OutboundPacket (view? Show)

/-! ## What a plan says about a packet -/

namespace Plan

/-- The plan is one for a packet that shows `view`. -/
inductive Suits (table : MappingTable) (view : PacketView) : Plan → Prop where
  | absorb (report : Option Icmp.Report) (message : view.protocol = .icmp) :
      Suits table view (.absorb report)
  | absorbUnquoted (message : view.protocol = .icmp) : Suits table view .absorbUnquoted
  | toIpv6 (sender : Ipv4Address) (declared : Bytes) {crossing : FourToSix}
      (leads : table.Leads .fourToSix view.endpoints crossing.endpoints)
      (converted : view.convert .fourToSix crossing.endpoints = .ok crossing.payload)
      (carries : crossing.CarriesOn view)
      (fits : view.offset + crossing.payload.length ≤ 65535)
      (unfragmented : view.protocol = .icmp → view.isFragment = false) :
      Suits table view (.toIpv6 sender declared crossing)
  | toIpv4 (sender : Ipv6Address) (arrived : Bytes) {crossing : SixToFour}
      (leads : table.Leads .sixToFour view.endpoints crossing.endpoints)
      (converted : view.convert .sixToFour crossing.endpoints = .ok crossing.payload)
      (carries : crossing.CarriesOn view)
      (fits : view.offset + crossing.payload.length ≤ 65535)
      (unfragmented : view.protocol = .icmp → view.isFragment = false) :
      Suits table view (.toIpv4 sender arrived crossing)
  | withinIpv6 {packet : OutboundPacket} {after : Endpoints} {payload : Bytes}
      (leads : table.Leads .sixToSix view.endpoints after)
      (converted : view.convert .sixToSix after = .ok payload)
      (family : packet.family = .inet6)
      (shown : ∀ drawn, view? packet = some (view.whole .sixToSix after drawn payload)) :
      Suits table view (.withinIpv6 packet)

variable {table : MappingTable} {packet : Bytes} {view : PacketView} {plan : Plan}

/-- **A plan suits the packet it was made for.** -/
theorem suits {family : Family} (read : PacketView.read? family packet = some view)
    (ok : ofPacket table family packet = .ok plan) : plan.Suits table view := by
  cases made ok with
  | absorbIpv4 readable named =>
      cases read.symm.trans (PacketView.read?_of_ipv4 readable named)
      exact .absorb _ rfl
  | absorbUnquoted readable named =>
      cases read.symm.trans (PacketView.read?_of_ipv4 readable named)
      exact .absorbUnquoted rfl
  | toIpv6 readable named fits message crosses =>
      cases read.symm.trans (PacketView.read?_of_ipv4 readable named)
      obtain ⟨leads, converted, carries⟩ := FourToSix.of_ofDatagram crosses
      refine .toIpv6 _ _ leads converted carries ?_ fun icmp => ?_
      · rw [PacketView.length_convert rfl rfl converted]
        exact fits
      · rw [← PacketView.isFragment_ofIpv4]
        exact (message icmp).1
  | absorbIpv6 readable message =>
      cases read.symm.trans (PacketView.read?_of_ipv6 readable)
      simp only [isPacketTooBig, Bool.and_eq_true, decide_eq_true_eq] at message
      exact .absorb _ message.1.1
  | toIpv4 readable message chosen crosses =>
      cases read.symm.trans (PacketView.read?_of_ipv6 readable)
      obtain ⟨leads, converted, carries, fits, unfragmented⟩ :=
        SixToFour.of_ofDatagram chosen crosses
      refine .toIpv4 _ _ leads converted carries ?_ ?_
      · rw [PacketView.length_convert rfl rfl converted]
        exact fits
      · rw [← PacketView.isFragment_ofIpv6]
        exact unfragmented
  | withinIpv6 readable message chosen becomes =>
      cases read.symm.trans (PacketView.read?_of_ipv6 readable)
      obtain ⟨after, payload, leads, converted, family, shown⟩ :=
        SixToSix.of_packet (Ipv6Datagram.sound readable) chosen becomes
      exact .withinIpv6 leads converted family shown

/-- Only a packet that can be read has a plan. -/
theorem exists_view {family : Family} (ok : ofPacket table family packet = .ok plan) :
    ∃ view, PacketView.read? family packet = some view := by
  cases made ok with
  | absorbIpv4 read named => exact ⟨_, PacketView.read?_of_ipv4 read named⟩
  | absorbUnquoted read named => exact ⟨_, PacketView.read?_of_ipv4 read named⟩
  | toIpv6 read named => exact ⟨_, PacketView.read?_of_ipv4 read named⟩
  | absorbIpv6 read => exact ⟨_, PacketView.read?_of_ipv6 read⟩
  | toIpv4 read => exact ⟨_, PacketView.read?_of_ipv6 read⟩
  | withinIpv6 read => exact ⟨_, PacketView.read?_of_ipv6 read⟩

theorem exists_ofIpv4 {way : Way} {after : Endpoints} {payload : Bytes}
    (read : PacketView.read? .inet packet = some view) (segment : view.protocol ≠ .icmp)
    (fits : view.offset + view.payload.length ≤ 65535)
    (leads : table.Leads way view.endpoints after)
    (converted : view.convert way after = .ok payload) :
    ∃ plan, ofPacket table .inet packet = .ok plan := by
  obtain ⟨datagram, protocol, readable, named, rfl⟩ := PacketView.read?_inet read
  obtain rfl : way = .fourToSix := by
    cases leads
    rfl
  obtain ⟨crossing, crosses⟩ := FourToSix.exists_ofDatagram leads converted
  exact ⟨_, of_made (.toIpv6 readable named fits (fun message => absurd message segment) crosses)⟩

theorem exists_ofIpv6 {way : Way} {after : Endpoints} {payload : Bytes}
    (read : PacketView.read? .inet6 packet = some view) (segment : view.protocol ≠ .icmp)
    (fits : view.offset + view.payload.length ≤ 65535)
    (leads : table.Leads way view.endpoints after)
    (converted : view.convert way after = .ok payload) :
    ∃ plan, ofPacket table .inet6 packet = .ok plan := by
  obtain ⟨datagram, readable, rfl⟩ := PacketView.read?_inet6 read
  have segment : datagram.protocol ≠ .icmp := segment
  have other : isPacketTooBig datagram = false := by
    rw [isPacketTooBig, decide_eq_false segment, Bool.false_and, Bool.false_and]
  cases way with
  | fourToSix => cases leads
  | sixToFour =>
      obtain ⟨crossing, crosses⟩ :=
        SixToFour.exists_ofDatagram (fun message => segment message.1) fits leads converted
      cases leads with
      | sixToFour chosen mapped => exact ⟨_, of_made (.toIpv4 readable other chosen crosses)⟩
  | sixToSix =>
      obtain ⟨outbound, becomes⟩ := SixToSix.exists_packet leads converted
      cases leads with
      | sixToSix chosen mapped => exact ⟨_, of_made (.withinIpv6 readable other chosen becomes)⟩

end Plan

/-! ## What is sent -/

namespace OutboundPacket

variable {family : Family} {packets notices : List OutboundPacket} {views : List PacketView}

theorem show_of_family (same : ∀ packet ∈ packets, packet.family = family)
    (shown : packets.map view? = views.map some) : Show family packets views := by
  have all : packets.filter (fun packet => packet.family = family) = packets :=
    List.filter_eq_self.mpr fun packet member => decide_eq_true (same packet member)
  rw [Show, all, shown]

/-- Packets of another family in front are not seen. -/
theorem show_behind (others : ∀ notice ∈ notices, notice.family ≠ family)
    (shown : Show family packets views) : Show family (notices ++ packets) views := by
  have none : notices.filter (fun packet => packet.family = family) = [] :=
    List.filter_eq_nil_iff.mpr fun notice member same =>
      others notice member (of_decide_eq_true same)
  rw [Show, List.filter_append, none, List.nil_append]
  exact shown

end OutboundPacket

/-- Packets that show what should be sent have the new endpoints. -/
theorem PacketView.addressed_of_shown {view : PacketView} {way : Way} {after : Endpoints}
    {mtu : UInt16} {drawn : UInt32} {payload : Bytes} {carried : List OutboundPacket}
    (same : carried.map view? = (view.sent way after mtu drawn payload).map some) :
    ∀ output ∈ carried, ∃ shown, view? output = some shown ∧ shown.endpoints = after := by
  intro output member
  obtain ⟨shown, sent, seen⟩ := OutboundPacket.exists_of_shown same output member
  exact ⟨shown, seen, (headers_sent shown sent).1⟩

namespace Translator

variable {translator : Translator} {surroundings : Surroundings} {view : PacketView}

/-- A packet that shows `view` is forwarded: its endpoints become `after`, its payload becomes
`payload`, and the packets that are sent carry it on. An ICMP message does not cross in
fragments. -/
structure Forwards (translator : Translator) (surroundings : Surroundings) (view : PacketView)
    (way : Way) (after : Endpoints) (payload : Bytes) (packets : List OutboundPacket) : Prop where
  leads : translator.table.Leads way view.endpoints after
  converted : view.convert way after = .ok payload
  shown : Show way.target packets (view.sent way after
    (translator.pathMtu.lookup after.destination) surroundings.drawn payload)
  unfragmented : view.protocol = .icmp → way = .sixToSix ∨ view.isFragment = false

theorem forwards_toIpv6 (surroundings : Surroundings) {sender : Ipv4Address} {declared : Bytes}
    {crossing : FourToSix}
    (suits : (Plan.toIpv6 sender declared crossing).Suits translator.table view)
    (aligned : view.offset % 8 = 0) :
    translator.Forwards surroundings view .fourToSix crossing.endpoints crossing.payload
      (translator.carryOut surroundings (.toIpv6 sender declared crossing)).packets := by
  cases suits with
  | toIpv6 _ _ leads converted carries fits unfragmented =>
      refine ⟨leads, converted, ?_, fun message => .inr (unfragmented message)⟩
      rw [packets_carryOut_toIpv6]
      exact OutboundPacket.show_behind
        (translator.forall_noticesIpv4 surroundings (fun _ _ => Family.noConfusion) crossing)
        (OutboundPacket.show_of_family (crossing.family_packets _ _)
          (carries.view?_packets aligned fits _ _))

theorem forwards_toIpv4 (surroundings : Surroundings) {sender : Ipv6Address} {arrived : Bytes}
    {crossing : SixToFour}
    (suits : (Plan.toIpv4 sender arrived crossing).Suits translator.table view)
    (aligned : view.offset % 8 = 0) :
    translator.Forwards surroundings view .sixToFour crossing.endpoints crossing.payload
      (translator.carryOut surroundings (.toIpv4 sender arrived crossing)).packets := by
  cases suits with
  | toIpv4 _ _ leads converted carries fits unfragmented =>
      refine ⟨leads, converted, ?_, fun message => .inr (unfragmented message)⟩
      rw [packets_carryOut_toIpv4]
      exact OutboundPacket.show_behind
        (translator.forall_noticesIpv6 surroundings (fun _ _ => Family.noConfusion) crossing)
        (OutboundPacket.show_of_family (crossing.family_packets _ _)
          (carries.view?_packets aligned fits _ _))

theorem forwards_withinIpv6 (surroundings : Surroundings) {packet : OutboundPacket}
    (suits : (Plan.withinIpv6 packet).Suits translator.table view) :
    ∃ after payload, translator.Forwards surroundings view .sixToSix after payload
      (translator.carryOut surroundings (.withinIpv6 packet)).packets := by
  cases suits with
  | withinIpv6 leads converted family shown =>
      refine ⟨_, _, leads, converted, OutboundPacket.show_of_family ?_ ?_, fun _ => .inl rfl⟩
      · intro other member
        rw [List.mem_singleton.mp member]
        exact family
      · exact congrArg (fun view => [view]) (shown surroundings.drawn)

/-- Carrying out a plan that suits a packet sends nothing for a message and forwards any other
packet. -/
theorem carryOut_of_suits {plan : Plan} (suits : plan.Suits translator.table view)
    (aligned : view.offset % 8 = 0) :
    (view.protocol = .icmp ∧ (translator.carryOut surroundings plan).packets = []) ∨
      ∃ way after payload, translator.Forwards surroundings view way after payload
        (translator.carryOut surroundings plan).packets := by
  cases plan with
  | absorb report =>
      cases suits with
      | absorb _ message => cases report <;> exact .inl ⟨message, rfl⟩
  | absorbUnquoted =>
      cases suits with
      | absorbUnquoted message => exact .inl ⟨message, rfl⟩
  | toIpv6 sender declared crossing => exact .inr ⟨_, _, _, forwards_toIpv6 _ suits aligned⟩
  | toIpv4 sender arrived crossing => exact .inr ⟨_, _, _, forwards_toIpv4 _ suits aligned⟩
  | withinIpv6 packet => exact .inr ⟨_, forwards_withinIpv6 _ suits⟩

/-- **An accepted packet is an absorbed message or is forwarded.** -/
theorem step_accepted {family : Family} {packet : Bytes} {packets : List OutboundPacket}
    (read : PacketView.read? family packet = some view)
    (accepted : (translator.step surroundings family packet).result = .ok packets) :
    (view.protocol = .icmp ∧ packets = []) ∨
      ∃ way after payload, translator.Forwards surroundings view way after payload packets := by
  obtain ⟨plan, made, rfl, -⟩ := exists_plan_of_accepted accepted
  exact carryOut_of_suits (Plan.suits read made) (PacketView.offset_aligned read)

/-- An accepted packet is forwarded if it is no message, or if anything is sent for it. -/
theorem step_forwards {family : Family} {packet : Bytes} {packets : List OutboundPacket}
    (read : PacketView.read? family packet = some view)
    (accepted : (translator.step surroundings family packet).result = .ok packets)
    (sends : view.protocol = .icmp → packets ≠ []) :
    ∃ way after payload, translator.Forwards surroundings view way after payload packets := by
  rcases step_accepted read accepted with ⟨message, nothing⟩ | forwarded
  · exact absurd nothing (sends message)
  · exact forwarded

/-- What is sent for a packet is what its plan says. -/
theorem result_of_plan {family : Family} {packet : Bytes} {plan : Plan}
    (made : Plan.ofPacket translator.table family packet = .ok plan) :
    (translator.step surroundings family packet).result =
      .ok (translator.carryOut surroundings plan).packets := by
  unfold step
  rw [made]

/-- An accepted packet can be read. -/
theorem exists_view_of_accepted {family : Family} {packet : Bytes}
    {packets : List OutboundPacket}
    (accepted : (translator.step surroundings family packet).result = .ok packets) :
    ∃ view, PacketView.read? family packet = some view := by
  obtain ⟨plan, made, -⟩ := exists_plan_of_accepted accepted
  exact Plan.exists_view made

/-- What is sent for a forwarded packet is not nothing. -/
theorem Forwards.ne_nil {way : Way} {after : Endpoints} {payload : Bytes}
    {packets : List OutboundPacket}
    (forwards : translator.Forwards surroundings view way after payload packets) :
    packets ≠ [] := by
  rintro rfl
  have none := forwards.shown
  exact PacketView.covers_sent.ne_nil (List.map_eq_nil_iff.mp none.symm)

/-- Something is sent for every accepted packet but for a message. -/
theorem ne_nil_of_accepted {family : Family} {packet : Bytes} {packets : List OutboundPacket}
    (read : PacketView.read? family packet = some view)
    (accepted : (translator.step surroundings family packet).result = .ok packets)
    (sends : view.protocol = .icmp → packets ≠ []) : packets ≠ [] := by
  obtain ⟨_, _, _, forwards⟩ := step_forwards read accepted sends
  exact forwards.ne_nil

/-! ## Notices and what stands behind them -/

/-- What is sent for a packet on its way, and what becomes of the translator. First there are
notices to the sender, and behind them the packets that carry the payload on. -/
inductive Sends (translator : Translator) (surroundings : Surroundings) (packet : Bytes)
    (view : PacketView) :
    Translator → Way → Endpoints → List OutboundPacket → List OutboundPacket → Prop where
  | toIpv6 {datagram : Ipv4Datagram} {crossing : FourToSix} {declared : Bytes}
      (read : Ipv4Datagram.read packet = .ok datagram)
      (origin : view.endpoints.source = .v4 datagram.fields.source)
      (upTo : declared = packet.take datagram.fields.totalLength.toNat)
      (suits :
        (Plan.toIpv6 datagram.fields.source declared crossing).Suits translator.table view) :
      Sends translator surroundings packet view
        (translator.carryOut surroundings
          (.toIpv6 datagram.fields.source declared crossing)).translator
        .fourToSix crossing.endpoints
        (translator.noticesIpv4 surroundings datagram.fields.source declared crossing)
        (crossing.packets (translator.pathMtu.lookup (.v6 crossing.destination))
          surroundings.drawn)
  | toIpv4 {datagram : Ipv6Datagram} {crossing : SixToFour}
      (read : Ipv6Datagram.read packet = .ok datagram)
      (origin : view.endpoints.source = .v6 datagram.fields.source)
      (suits :
        (Plan.toIpv4 datagram.fields.source packet crossing).Suits translator.table view) :
      Sends translator surroundings packet view
        (translator.carryOut surroundings
          (.toIpv4 datagram.fields.source packet crossing)).translator
        .sixToFour crossing.endpoints
        (translator.noticesIpv6 surroundings datagram.fields.source packet crossing)
        (crossing.packets (translator.pathMtu.lookup (.v4 crossing.destination))
          surroundings.drawn)
  | withinIpv6 {outbound : OutboundPacket} {after : Endpoints} {payload : Bytes}
      (leads : translator.table.Leads .sixToSix view.endpoints after)
      (shown : ∀ drawn, view? outbound = some (view.whole .sixToSix after drawn payload)) :
      Sends translator surroundings packet view translator .sixToSix after [] [outbound]

/-- For a packet with a plan nothing is sent, or what its way says. -/
theorem sends_of_plan {family : Family} {packet : Bytes} {plan : Plan}
    (read : PacketView.read? family packet = some view)
    (planned : Plan.ofPacket translator.table family packet = .ok plan)
    (forwarded : (translator.carryOut surroundings plan).packets ≠ []) :
    ∃ way after, translator.Sends surroundings packet view
      (translator.carryOut surroundings plan).translator way after
      (translator.noticesOf surroundings plan)
      (plan.carried translator.pathMtu surroundings.drawn) := by
  have suits := Plan.suits read planned
  cases Plan.made planned with
  | @absorbIpv4 _ _ report => cases report <;> exact absurd rfl forwarded
  | absorbUnquoted => exact absurd rfl forwarded
  | absorbIpv6 => exact absurd rfl forwarded
  | toIpv6 readable named =>
      cases read.symm.trans (PacketView.read?_of_ipv4 readable named)
      exact ⟨_, _, .toIpv6 readable rfl rfl suits⟩
  | toIpv4 readable =>
      cases read.symm.trans (PacketView.read?_of_ipv6 readable)
      exact ⟨_, _, .toIpv4 readable rfl suits⟩
  | withinIpv6 =>
      cases suits with
      | withinIpv6 leads _ _ shown => exact ⟨_, _, .withinIpv6 leads shown⟩

/-- For an accepted packet nothing is sent, or what its way says. -/
theorem exists_sends {family : Family} {packet : Bytes} {packets : List OutboundPacket}
    (read : PacketView.read? family packet = some view)
    (accepted : (translator.step surroundings family packet).result = .ok packets)
    (forwarded : packets ≠ []) :
    ∃ way after notices carried, packets = notices ++ carried ∧
      translator.Sends surroundings packet view
        (translator.step surroundings family packet).translator way after notices carried := by
  obtain ⟨plan, planned, rfl, become⟩ := exists_plan_of_accepted accepted
  obtain ⟨way, after, sends⟩ := sends_of_plan read planned forwarded
  rw [become]
  exact ⟨way, after, _, _, packets_carryOut .., sends⟩

namespace Sends

variable {packet : Bytes} {next : Translator} {way : Way} {after : Endpoints}
  {notices carried : List OutboundPacket}

theorem leads (sends : translator.Sends surroundings packet view next way after notices carried) :
    translator.table.Leads way view.endpoints after := by
  cases sends with
  | toIpv6 read origin upTo suits => cases suits; assumption
  | toIpv4 read origin suits => cases suits; assumption
  | withinIpv6 leads shown => exact leads

/-- There are no notices about a packet that stays in IPv6. -/
theorem notices_eq_nil
    (sends : translator.Sends surroundings packet view next .sixToSix after notices carried) :
    notices = [] := by
  cases sends with
  | withinIpv6 leads shown => rfl

/-- The packets behind the notices have the new endpoints. -/
theorem addressed
    (sends : translator.Sends surroundings packet view next way after notices carried)
    (aligned : view.offset % 8 = 0) :
    ∀ output ∈ carried, ∃ shown, view? output = some shown ∧ shown.endpoints = after := by
  cases sends with
  | toIpv6 read origin upTo suits =>
      cases suits with
      | toIpv6 _ _ leads converted carries fits =>
          exact PacketView.addressed_of_shown (carries.view?_packets aligned fits _ _)
  | toIpv4 read origin suits =>
      cases suits with
      | toIpv4 _ _ leads converted carries fits =>
          exact PacketView.addressed_of_shown (carries.view?_packets aligned fits _ _)
  | withinIpv6 leads shown =>
      rw [List.forall_mem_singleton]
      exact ⟨_, shown surroundings.drawn, rfl⟩

end Sends

/-! ## What is accepted -/

/-- A segment is accepted if the table leads it somewhere, its payload can be converted, and its
datagram is not too large. -/
theorem step_of_leads {family : Family} {packet : Bytes} {way : Way} {after : Endpoints}
    {payload : Bytes} (read : PacketView.read? family packet = some view)
    (segment : view.protocol ≠ .icmp) (fits : view.offset + view.payload.length ≤ 65535)
    (leads : translator.table.Leads way view.endpoints after)
    (converted : view.convert way after = .ok payload) :
    ∃ packets, (translator.step surroundings family packet).result = .ok packets := by
  obtain ⟨plan, made⟩ : ∃ plan, Plan.ofPacket translator.table family packet = .ok plan := by
    cases family with
    | inet => exact Plan.exists_ofIpv4 read segment fits leads converted
    | inet6 => exact Plan.exists_ofIpv6 read segment fits leads converted
  unfold step
  rw [made]
  exact ⟨_, rfl⟩

/-- Such a segment is forwarded along the way that the table leads it. -/
theorem forwards_of_leads {family : Family} {packet : Bytes} {way : Way} {after : Endpoints}
    {payload : Bytes} (read : PacketView.read? family packet = some view)
    (segment : view.protocol ≠ .icmp) (fits : view.offset + view.payload.length ≤ 65535)
    (leads : translator.table.Leads way view.endpoints after)
    (converted : view.convert way after = .ok payload) :
    ∃ packets, (translator.step surroundings family packet).result = .ok packets ∧
      translator.Forwards surroundings view way after payload packets := by
  obtain ⟨packets, accepted⟩ := step_of_leads read segment fits leads converted
  obtain ⟨other, others, carried, forwards⟩ :=
    step_forwards read accepted fun message => absurd message segment
  obtain ⟨rfl, rfl⟩ := leads.unique forwards.leads
  cases converted.symm.trans forwards.converted
  exact ⟨packets, accepted, forwards⟩

/-- What is sent for such a segment. -/
theorem step_segment {family : Family} {packet : Bytes} {way : Way} {after : Endpoints}
    {payload : Bytes} (read : PacketView.read? family packet = some view)
    (segment : view.protocol ≠ .icmp) (fits : view.offset + view.payload.length ≤ 65535)
    (leads : translator.table.Leads way view.endpoints after)
    (converted : view.convert way after = .ok payload) :
    ∃ packets, (translator.step surroundings family packet).result = .ok packets ∧
      Show way.target packets (view.sent way after
        (translator.pathMtu.lookup after.destination) surroundings.drawn payload) := by
  obtain ⟨packets, accepted, forwards⟩ :=
    forwards_of_leads read segment fits leads converted
  exact ⟨packets, accepted, forwards.shown⟩

/-! ## What stays -/

/-- Treating a packet leaves the table as it is. -/
theorem table_step (translator : Translator) (surroundings : Surroundings) (family : Family)
    (packet : Bytes) :
    (translator.step surroundings family packet).translator.table = translator.table := by
  rcases translator.step_cases surroundings family packet with
    ⟨_, _, same⟩ | ⟨_, _, _, changes⟩
  · rw [same]
  · exact changes.table

/-- A translator becomes another by treating packets. -/
inductive Reaches (start : Translator) : Translator → Prop where
  | start : Reaches start start
  | step {current : Translator} (reached : Reaches start current) (surroundings : Surroundings)
      (family : Family) (packet : Bytes) :
      Reaches start (current.step surroundings family packet).translator

/-- Whatever packets are treated, the table stays as it is. -/
theorem Reaches.table {start current : Translator} (reached : start.Reaches current) :
    current.table = start.table := by
  induction reached with
  | start => rfl
  | step reached surroundings family packet ih =>
      rw [table_step]
      exact ih

end Translator

/-! ## A small gateway -/

namespace Sample

/-- A host with an address in each family. -/
def host : MappingEntry := ⟨⟨192, 0, 2, 10⟩, ⟨⟨0x2001, 0xdb8, 0, 0, 0, 0⟩, ⟨0, 0, 0, 0x10⟩⟩⟩

/-- A host that is known by another address within IPv6. -/
def peer : PeerEntry :=
  ⟨⟨⟨0xfd00, 0, 0, 0, 0, 0⟩, ⟨0, 0, 0, 1⟩⟩, ⟨⟨0x2001, 0xdb8, 1, 0, 0, 0⟩, ⟨0, 0, 0, 1⟩⟩⟩

/-- A host that the table does not know. -/
def remote : Ipv4Address := ⟨198, 51, 100, 7⟩

/-- The network under which the IPv6 side knows IPv4 addresses. -/
def network : Network96 := ⟨0x64, 0xff9b, 0, 0, 0, 0⟩

/-- A translator for these hosts that has learnt a small MTU. -/
def translator : Translator where
  table := ⟨[host], [peer], some network⟩
  pathMtu := PathMtu.Cache.standard.record (.v4 remote) 68 0
  needFragLimiter := .fresh 10
  tooBigLimiter := .fresh 10

/-- Surroundings in which no notice can be sent. -/
def surroundings : Surroundings := ⟨0, fun _ => .error "no route", 7⟩

/-- A fragment that comes to the host over IPv4 and is too long for its path over IPv6. -/
def longFragment : PacketView where
  endpoints := ⟨.v4 remote, .v4 host.ipv4⟩
  protocol := .udp
  hopLimit := 64
  identification := some 0xbeef
  dontFragment := false
  offset := 800
  moreFragments := true
  payload := List.replicate 1456 0x61

/-- The packet with that fragment. -/
def longPacket : Bytes :=
  Ipv4Header.emit ⟨remote, host.ipv4, 17, 64, 0xbeef, false, true, 800⟩ 1456 ++
    longFragment.payload

theorem read_longPacket : PacketView.read? .inet longPacket = some longFragment := by
  decide +kernel

theorem leads_longFragment : translator.table.Leads .fourToSix longFragment.endpoints
    ⟨.v6 (.embed network remote), .v6 host.ipv6⟩ := .fourToSix rfl

/-- What does not begin a datagram stays what it is. -/
theorem convert_longFragment :
    longFragment.convert .fourToSix ⟨.v6 (.embed network remote), .v6 host.ipv6⟩ =
      .ok (List.replicate 1456 0x61) :=
  PacketView.convert_of_offset (by decide)

theorem accepted_longPacket (surroundings : Surroundings) : ∃ packets,
    (translator.step surroundings .inet longPacket).result = .ok packets :=
  Translator.step_of_leads read_longPacket (by decide) (by decide +kernel) leads_longFragment
    convert_longFragment

end Sample

end FamilyGateway
