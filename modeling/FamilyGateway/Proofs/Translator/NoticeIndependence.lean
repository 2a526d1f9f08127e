import FamilyGateway.Proofs.Translator.Notices

/-!
# Notices do not interfere with traffic

Whether a notice is sent hangs on a limiter and on the choice of a source address. Nothing
else does: the plan for a packet is made from the table, the packets that carry it on from the
plan, the cache and the drawn identification, and what is learnt from the plan and the
cache. So two translators that agree on the table and the cache treat a packet alike but for
the notices, whatever their limiters have granted and whatever addresses they are told
(`Translator.notices_do_not_interfere`).

What can be said of the notices in a single run is said about every run
(`Translator.NoticesApart`).
-/

set_option autoImplicit false

namespace FamilyGateway

open OutboundPacket (view?)

/-- What is left of some packets without the notices among them. -/
def OutboundPacket.withoutNotices (packets : List OutboundPacket) : List OutboundPacket :=
  packets.filter fun output => !output.isNotice

/-- The cache after a packet with a plan. -/
def Plan.learnt (cache : PathMtu.Cache) (now : Instant) : Plan → PathMtu.Cache
  | .absorb (some report) => report.enter cache now
  | .absorb none | .absorbUnquoted | .toIpv6 .. | .toIpv4 .. | .withinIpv6 _ => cache

namespace Translator

variable {translator : Translator} {surroundings : Surroundings} {family : Family}
  {packet : Bytes} {plan : Plan}

/-! ## A single run -/

/-- The notices among the packets that are sent for a packet. -/
structure NoticesApart (translator : Translator) (family : Family) (packet : Bytes)
    (packets : List OutboundPacket) : Prop where
  /-- Notices stand in front. -/
  front : packets = packets.filter OutboundPacket.isNotice ++ OutboundPacket.withoutNotices packets
  atMostOne : (packets.filter OutboundPacket.isNotice).length ≤ 1
  /-- Notices are sent to where the packet came from. -/
  toSender : ∀ notice ∈ packets.filter OutboundPacket.isNotice, ∃ view,
    PacketView.read? family packet = some view ∧ notice.Notifies family view.endpoints.source
  /-- There are notices about packets that are cut only. No cache that is built by recording
  reports goes below the floors. -/
  cut : translator.pathMtu.Floored → packets.filter OutboundPacket.isNotice ≠ [] →
    Splits translator.table family packet packets (Way.across family)
  /-- There are no notices about messages other than echo messages. -/
  echo : ∀ view, PacketView.read? family packet = some view → view.protocol = .icmp →
    ¬ view.IsEcho family → packets.filter OutboundPacket.isNotice = []

/-- Only about packets that are cut there are notices. -/
theorem splits_of_noticesOf_ne_nil (floored : translator.pathMtu.Floored)
    (planned : Plan.ofPacket translator.table family packet = .ok plan)
    (announced : translator.noticesOf surroundings plan ≠ []) :
    Splits translator.table family packet (translator.carryOut surroundings plan).packets
      (Way.across family) := by
  cases Plan.made planned with
  | absorbIpv4 => exact absurd rfl announced
  | absorbUnquoted => exact absurd rfl announced
  | absorbIpv6 => exact absurd rfl announced
  | @toIpv6 _ datagram _ crossing =>
      obtain ⟨source, notices⟩ :=
        translator.exists_noticesIpv4 surroundings datagram.fields.source crossing
      refine splits_toIpv6_of_floored floored planned ?_
      refine Bool.of_not_eq_false ?_
      intro whole
      refine announced ?_
      rw [noticesOf, notices, whole]
      rfl
  | @toIpv4 _ datagram crossing =>
      obtain ⟨source, notices⟩ :=
        translator.exists_noticesIpv6 surroundings datagram.fields.source crossing
      refine splits_toIpv4_of_floored floored planned ?_
      refine Bool.of_not_eq_false ?_
      intro whole
      refine announced ?_
      rw [noticesOf, notices, whole]
      rfl
  | withinIpv6 => exact absurd rfl announced

theorem noticesApart {packets : List OutboundPacket}
    (accepted : (translator.step surroundings family packet).result = .ok packets) :
    translator.NoticesApart family packet packets := by
  obtain ⟨plan, planned, rfl, -⟩ := exists_plan_of_accepted accepted
  obtain ⟨view, read⟩ := Plan.exists_view planned
  have announces : Announces family view (translator.noticesOf surroundings plan)
      (plan.carried translator.pathMtu surroundings.drawn) := announces_of_plan read planned
  have notices : (translator.carryOut surroundings plan).packets.filter OutboundPacket.isNotice =
      translator.noticesOf surroundings plan := filter_isNotice read planned
  refine ⟨?_, ?_, ?_, ?_, ?_⟩
  · rw [OutboundPacket.withoutNotices, notices, filter_not_isNotice read planned,
      packets_carryOut]
  · rw [notices]
    exact announces.atMostOne
  · intro notice member
    rw [notices] at member
    exact ⟨view, read, announces.announced notice member⟩
  · intro floored announced
    rw [notices] at announced
    exact splits_of_noticesOf_ne_nil floored planned announced
  · intro other also message noEcho
    cases read.symm.trans also
    rw [notices]
    refine Classical.byContradiction ?_
    intro announced
    exact noEcho (announces.echo announced message)

/-! ## Two runs -/

/-- What is learnt from a packet hangs on its plan, the cache and the time. -/
theorem pathMtu_carryOut (translator : Translator) (surroundings : Surroundings) (plan : Plan) :
    (translator.carryOut surroundings plan).translator.pathMtu =
      plan.learnt translator.pathMtu surroundings.now := by
  cases plan with
  | absorb report => cases report <;> rfl
  | absorbUnquoted => rfl
  | toIpv6 sender declared crossing =>
      rw [translator_carryOut_toIpv6]
      split <;> rfl
  | toIpv4 sender arrived crossing =>
      rw [translator_carryOut_toIpv4]
      split <;> rfl
  | withinIpv6 packet => rfl

/-- **Notices do not interfere with traffic.** Translators with one table and one cache drop the
same packets for the same reasons, and send the same packets but for notices. They have one cache
afterwards. Their limiters and the source addresses that they are told may differ at will. -/
theorem notices_do_not_interfere (left right : Translator) (here there : Surroundings)
    (table : left.table = right.table) (pathMtu : left.pathMtu = right.pathMtu)
    (now : here.now = there.now) (drawn : here.drawn = there.drawn) (family : Family)
    (packet : Bytes) :
    (left.step here family packet).result.map OutboundPacket.withoutNotices =
        (right.step there family packet).result.map OutboundPacket.withoutNotices ∧
      (left.step here family packet).translator.pathMtu =
        (right.step there family packet).translator.pathMtu ∧
      (∀ packets, (left.step here family packet).result = .ok packets →
        left.NoticesApart family packet packets) ∧
      ∀ packets, (right.step there family packet).result = .ok packets →
        right.NoticesApart family packet packets := by
  suffices agree : (left.step here family packet).result.map OutboundPacket.withoutNotices =
        (right.step there family packet).result.map OutboundPacket.withoutNotices ∧
      (left.step here family packet).translator.pathMtu =
        (right.step there family packet).translator.pathMtu from
    ⟨agree.1, agree.2, fun _ => noticesApart, fun _ => noticesApart⟩
  unfold step
  cases planned : Plan.ofPacket left.table family packet with
  | error reason =>
      rw [← table, planned]
      exact ⟨rfl, pathMtu⟩
  | ok plan =>
      obtain ⟨view, read⟩ := Plan.exists_view planned
      have also : Plan.ofPacket right.table family packet = .ok plan := table ▸ planned
      rw [also]
      refine ⟨congrArg Except.ok ?_, ?_⟩
      · show OutboundPacket.withoutNotices _ = OutboundPacket.withoutNotices _
        rw [OutboundPacket.withoutNotices, OutboundPacket.withoutNotices,
          filter_not_isNotice read planned, filter_not_isNotice read also, pathMtu, drawn]
      · show (left.carryOut here plan).translator.pathMtu =
          (right.carryOut there plan).translator.pathMtu
        rw [pathMtu_carryOut, pathMtu_carryOut, pathMtu, now]

theorem notices_do_not_interfere_silenced :
    ∃ (silenced : Translator) (lost : Surroundings) (packets : List OutboundPacket),
      Sample.translator.table = silenced.table ∧ Sample.translator.pathMtu = silenced.pathMtu ∧
      Sample.answering.now = lost.now ∧ Sample.answering.drawn = lost.drawn ∧
      (Sample.translator.step Sample.answering .inet6
        (Sample.wholePacket (List.replicate 56 0))).result = .ok packets ∧
      Sample.translator.NoticesApart .inet6 (Sample.wholePacket (List.replicate 56 0)) packets ∧
      .ok (OutboundPacket.withoutNotices packets) =
        (silenced.step lost .inet6 (Sample.wholePacket (List.replicate 56 0))).result.map
          OutboundPacket.withoutNotices := by
  obtain ⟨_, packets, _, _, _, accepted, _⟩ := Sample.forwards_wholePacket
  let silenced : Translator := { Sample.translator with tooBigLimiter := .fresh 0 }
  let lost : Surroundings := { Sample.answering with sourceFor := fun _ => .error "no route" }
  obtain ⟨same, _, apart, _⟩ := notices_do_not_interfere Sample.translator silenced
    Sample.answering lost rfl rfl rfl rfl .inet6 (Sample.wholePacket (List.replicate 56 0))
  refine ⟨silenced, lost, packets, rfl, rfl, rfl, rfl, accepted, apart packets accepted, ?_⟩
  rw [← same, accepted]
  rfl

end Translator

end FamilyGateway
