import FamilyGateway.Proofs.Translator.Discovery

/-!
# What a packet can change

A packet that is dropped changes nothing. An accepted one changes at most one part
of the translator, which its plan names (`Translator.Changes`): a report enters the path
MTU cache, and a packet that has to be cut is counted by the limiter of the side that it
came from.

Seen from outside (`Translator.framed_step`): the table stays what it is, the cache changes only
by a message that reports a path MTU, for which nothing is sent and no notice is counted,
and a limiter changes only by a packet of its side that goes on in several pieces. That
the pieces are several needs the floors of the cache, for a path without room for a header
would have every packet announced as cut.
-/

set_option autoImplicit false

namespace FamilyGateway

/-! ## Messages that report a path MTU -/

/-- The packet is a message that reports a path MTU: over IPv4 one in a single piece that says that
fragmentation is needed, over IPv6 one without a Fragment header that says that a packet was too
big. -/
def PacketView.ReportsMtu (view : PacketView) : Family → Prop
  | .inet => view.protocol = .icmp ∧ view.isFragment = false ∧
      view.payload.take 2 = [Icmp.unreachable, Icmp.fragmentationNeeded]
  | .inet6 => view.protocol = .icmp ∧ view.identification = none ∧
      view.payload.head? = some Icmp.packetTooBig

/-- Type and code of a message decide whether it is taken for a report. -/
theorem Icmp.advise_reports_iff {bytes : Bytes} {advice : Advice}
    (ok : advise bytes = .ok advice) :
    bytes.take 2 = [unreachable, fragmentationNeeded] ↔
      advice = .discardUnquoted ∨ ∃ report, advice = .discard (some report) := by
  unfold advise at ok
  cases readable : IcmpMessage.read bytes with
  | error reason =>
      rw [readable] at ok
      cases ok
  | ok message =>
      have front : bytes.take 2 = [message.type, message.code] := by
        rw [IcmpMessage.eq_encode_of_read readable]
        rfl
      rw [readable] at ok
      rw [front, List.cons.injEq, List.cons.injEq, and_iff_left rfl]
      simp only [bind, Except.bind] at ok
      split at ok
      next echo =>
        cases ok
        constructor
        · rintro ⟨type, -⟩
          rw [type] at echo
          exact absurd echo (by decide)
        · rintro (same | ⟨_, same⟩) <;> cases same
      next =>
        split at ok
        next needed =>
          split at ok
          next => cases ok; exact ⟨fun _ => .inr ⟨_, rfl⟩, fun _ => needed⟩
          next => cases ok; exact ⟨fun _ => .inl rfl, fun _ => needed⟩
        next other =>
          cases ok
          constructor
          · exact fun needed => absurd needed other
          · rintro (same | ⟨_, same⟩) <;> cases same

namespace PacketView

/-- A message over IPv4 in a single piece is a report if it is taken for one. -/
theorem reportsMtu_ofIpv4 {datagram : Ipv4Datagram} {advice : Icmp.Advice}
    (whole : datagram.isFragment = false) (ok : Icmp.advise datagram.payload = .ok advice) :
    (ofIpv4 datagram .icmp).ReportsMtu .inet ↔
      advice = .discardUnquoted ∨ ∃ report, advice = .discard (some report) := by
  rw [isFragment_ofIpv4 datagram .icmp] at whole
  rw [← Icmp.advise_reports_iff ok]
  exact ⟨fun reports => reports.2.2, fun front => ⟨rfl, whole, front⟩⟩

theorem reportsMtu_ofIpv6 (datagram : Ipv6Datagram) :
    (ofIpv6 datagram).ReportsMtu .inet6 ↔ Plan.isPacketTooBig datagram = true := by
  simp only [ReportsMtu, ofIpv6, Plan.isPacketTooBig, Option.map_eq_none_iff, Bool.and_eq_true,
    decide_eq_true_eq, Option.isNone_iff_eq_none, and_assoc]

end PacketView

/-- A packet is planned as a report exactly if it is one. -/
theorem Plan.reportsMtu_iff {table : MappingTable} {family : Family} {packet : Bytes}
    {view : PacketView} {plan : Plan} (read : PacketView.read? family packet = some view)
    (planned : ofPacket table family packet = .ok plan) :
    view.ReportsMtu family ↔ plan = .absorbUnquoted ∨ ∃ report, plan = .absorb (some report) := by
  cases made planned with
  | absorbIpv4 readable named whole advice =>
      cases read.symm.trans (PacketView.read?_of_ipv4 readable named)
      simp only [PacketView.reportsMtu_ofIpv4 whole advice, reduceCtorEq, false_or,
        Icmp.Advice.discard.injEq, absorb.injEq]
  | absorbUnquoted readable named whole advice =>
      cases read.symm.trans (PacketView.read?_of_ipv4 readable named)
      simp only [PacketView.reportsMtu_ofIpv4 whole advice, true_or]
  | @toIpv6 _ _ protocol _ readable named fits message crosses =>
      cases read.symm.trans (PacketView.read?_of_ipv4 readable named)
      constructor
      · intro reports
        obtain rfl : protocol = .icmp := reports.1
        obtain ⟨whole, forward⟩ := message rfl
        rcases (PacketView.reportsMtu_ofIpv4 whole forward).mp reports with same | ⟨_, same⟩ <;>
          cases same
      · rintro (same | ⟨_, same⟩) <;> cases same
  | absorbIpv6 readable message reported =>
      cases read.symm.trans (PacketView.read?_of_ipv6 readable)
      rw [PacketView.reportsMtu_ofIpv6]
      exact ⟨fun _ => .inr ⟨_, rfl⟩, fun _ => message⟩
  | toIpv4 readable message chosen crosses =>
      cases read.symm.trans (PacketView.read?_of_ipv6 readable)
      simp only [PacketView.reportsMtu_ofIpv6, message, Bool.false_eq_true, reduceCtorEq,
        exists_false, or_false]
  | withinIpv6 readable message chosen becomes =>
      cases read.symm.trans (PacketView.read?_of_ipv6 readable)
      simp only [PacketView.reportsMtu_ofIpv6, message, Bool.false_eq_true, reduceCtorEq,
        exists_false, or_false]

/-! ## Packets that are split -/

namespace Translator

variable {translator : Translator} {surroundings : Surroundings}

/-- A packet takes a way, and what is sent for it are several packets of the family at the end of
the way, perhaps among others. -/
def Splits (table : MappingTable) (family : Family) (packet : Bytes)
    (packets : List OutboundPacket) (way : Way) : Prop :=
  ∃ view after, PacketView.read? family packet = some view ∧
    table.Leads way view.endpoints after ∧
    1 < (packets.filter fun output => output.family = way.target).length

/-- Several packets of a family are several among others. -/
theorem one_lt_length_filter {family : Family} {carried : List OutboundPacket}
    (notices : List OutboundPacket) (same : ∀ output ∈ carried, output.family = family)
    (several : 1 < carried.length) :
    1 < ((notices ++ carried).filter fun output => output.family = family).length := by
  have all : carried.filter (fun output => output.family = family) = carried :=
    List.filter_eq_self.mpr fun output member => decide_eq_true (same output member)
  rw [List.filter_append, all, List.length_append]
  omega

variable {family : Family} {packet : Bytes}

theorem splits_toIpv6_of_floored (floored : translator.pathMtu.Floored) {sender : Ipv4Address}
    {declared : Bytes} {crossing : FourToSix}
    (planned : Plan.ofPacket translator.table family packet =
      .ok (.toIpv6 sender declared crossing))
    (split : crossing.isSplit (translator.pathMtu.lookup (.v6 crossing.destination)) = true) :
    Splits translator.table family packet
      (translator.carryOut surroundings (.toIpv6 sender declared crossing)).packets
      .fourToSix := by
  obtain ⟨view, read⟩ := Plan.exists_view planned
  have floor := floored.floor_le_lookup (.v6 crossing.destination)
  cases Plan.suits read planned with
  | toIpv6 _ _ leads =>
      refine ⟨view, _, read, leads, ?_⟩
      rw [packets_carryOut_toIpv6]
      exact one_lt_length_filter _ (crossing.family_packets _ _)
        (FourToSix.one_lt_length_packets floor split _)

theorem splits_toIpv4_of_floored (floored : translator.pathMtu.Floored) {sender : Ipv6Address}
    {arrived : Bytes} {crossing : SixToFour}
    (planned : Plan.ofPacket translator.table family packet =
      .ok (.toIpv4 sender arrived crossing))
    (split : crossing.isSplit (translator.pathMtu.lookup (.v4 crossing.destination)) = true) :
    Splits translator.table family packet
      (translator.carryOut surroundings (.toIpv4 sender arrived crossing)).packets
      .sixToFour := by
  obtain ⟨view, read⟩ := Plan.exists_view planned
  have floor := floored.floor_le_lookup (.v4 crossing.destination)
  cases Plan.suits read planned with
  | toIpv4 _ _ leads =>
      refine ⟨view, _, read, leads, ?_⟩
      rw [packets_carryOut_toIpv4]
      exact one_lt_length_filter _ (crossing.family_packets _ _)
        (SixToFour.one_lt_length_packets floor split _)

theorem splits_toIpv6 (reached : translator.Reachable) {sender : Ipv4Address} {declared : Bytes}
    {crossing : FourToSix}
    (planned : Plan.ofPacket translator.table family packet =
      .ok (.toIpv6 sender declared crossing))
    (split : crossing.isSplit (translator.pathMtu.lookup (.v6 crossing.destination)) = true) :
    Splits translator.table family packet
      (translator.carryOut surroundings (.toIpv6 sender declared crossing)).packets
      .fourToSix :=
  splits_toIpv6_of_floored reached.floored planned split

theorem splits_toIpv4 (reached : translator.Reachable) {sender : Ipv6Address} {arrived : Bytes}
    {crossing : SixToFour}
    (planned : Plan.ofPacket translator.table family packet =
      .ok (.toIpv4 sender arrived crossing))
    (split : crossing.isSplit (translator.pathMtu.lookup (.v4 crossing.destination)) = true) :
    Splits translator.table family packet
      (translator.carryOut surroundings (.toIpv4 sender arrived crossing)).packets
      .sixToFour :=
  splits_toIpv4_of_floored reached.floored planned split

/-! ## What a packet changes -/

/-- What a translator is after it treated a packet with some result. -/
structure Framed (translator : Translator) (family : Family) (packet : Bytes)
    (next : Translator) (result : Except DropReason (List OutboundPacket)) : Prop where
  /-- A packet that is dropped changes nothing. -/
  dropped : ∀ reason, result = .error reason → next = translator
  /-- No packet changes the table. -/
  table : next.table = translator.table
  /-- Only a report changes the cache. -/
  pathMtu : next.pathMtu ≠ translator.pathMtu →
    ∃ view, PacketView.read? family packet = some view ∧ view.ReportsMtu family
  /-- For a report nothing is sent, and no limiter changes. -/
  report : ∀ view, PacketView.read? family packet = some view → view.ReportsMtu family →
    (∀ packets, result = .ok packets → packets = []) ∧
      next.needFragLimiter = translator.needFragLimiter ∧
      next.tooBigLimiter = translator.tooBigLimiter
  /-- The limiter for senders over IPv4 changes only by a packet that is split on its way to
  IPv6. -/
  needFrag : next.needFragLimiter ≠ translator.needFragLimiter →
    ∃ packets, result = .ok packets ∧
      Splits translator.table family packet packets .fourToSix
  /-- The limiter for senders over IPv6 changes only by a packet that is split on its way to
  IPv4. -/
  tooBig : next.tooBigLimiter ≠ translator.tooBigLimiter →
    ∃ packets, result = .ok packets ∧
      Splits translator.table family packet packets .sixToFour

/-- For a packet that is dropped all of that is said at once. -/
theorem Framed.of_dropped (translator : Translator) (family : Family) (packet : Bytes)
    (reason : DropReason) : translator.Framed family packet translator (.error reason) where
  dropped _ _ := rfl
  table := rfl
  pathMtu changed := absurd rfl changed
  report _ _ _ := ⟨nofun, rfl, rfl⟩
  needFrag changed := absurd rfl changed
  tooBig changed := absurd rfl changed

/-- Carrying out the plan for a report sends nothing and asks no limiter. -/
theorem carryOut_of_absorb {plan : Plan} {next : Translator}
    (absorbs : plan = .absorbUnquoted ∨ ∃ report, plan = .absorb (some report))
    (changes : translator.Changes surroundings plan next) :
    (translator.carryOut surroundings plan).packets = [] ∧
      next.needFragLimiter = translator.needFragLimiter ∧
      next.tooBigLimiter = translator.tooBigLimiter := by
  rcases absorbs with rfl | ⟨report, rfl⟩ <;> cases changes <;> exact ⟨rfl, rfl, rfl⟩

/-- **A dropped packet changes nothing, and an accepted one only what it is about.** -/
theorem framed_step (reached : translator.Reachable) (surroundings : Surroundings)
    (family : Family) (packet : Bytes) :
    translator.Framed family packet (translator.step surroundings family packet).translator
      (translator.step surroundings family packet).result := by
  rcases translator.step_cases surroundings family packet with
    ⟨reason, result, same⟩ | ⟨plan, planned, result, changes⟩
  · rw [result, same]
    exact .of_dropped translator family packet reason
  · rw [result]
    refine ⟨nofun, changes.table, fun changed => ?_, fun view read reports => ?_,
      fun changed => ?_, fun changed => ?_⟩
    · obtain ⟨report, rfl⟩ := changes.pathMtu changed
      obtain ⟨view, read⟩ := Plan.exists_view planned
      exact ⟨view, read, (Plan.reportsMtu_iff read planned).mpr (.inr ⟨report, rfl⟩)⟩
    · obtain ⟨nothing, limiters⟩ :=
        carryOut_of_absorb ((Plan.reportsMtu_iff read planned).mp reports) changes
      refine ⟨fun packets sent => ?_, limiters⟩
      rw [← Except.ok.inj sent]
      exact nothing
    · obtain ⟨sender, declared, crossing, rfl, split⟩ := changes.needFrag changed
      exact ⟨_, rfl, splits_toIpv6 reached planned split⟩
    · obtain ⟨sender, arrived, crossing, rfl, split⟩ := changes.tooBig changed
      exact ⟨_, rfl, splits_toIpv4 reached planned split⟩

end Translator

end FamilyGateway
