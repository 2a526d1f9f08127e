import FamilyGateway.Proofs.Icmp.Advertisement
import FamilyGateway.Proofs.Translator.Reachable

/-!
# Bytes behind the end of a packet

A packet may arrive with more bytes than its header declares. They are no part of it, and
what is done with it does not hang on them (`Plan.ofIpv4_append`, `Plan.ofIpv6_append`),
with one exception. A packet that has to be cut on its way to IPv4 is quoted in the notice
to its sender as it arrived, with the bytes that follow it, where a packet on its way to
IPv6 is quoted up to its declared length. So bytes behind the end show exactly if such a
notice is sent and the packet leaves room in it (`Translator.Overquoted`,
`Translator.trailing_ignored_iff`).
-/

set_option autoImplicit false

namespace FamilyGateway

/-! ## Notices about a packet with bytes behind it -/

namespace Icmp

/-- A notice shows of a packet what there is room for. -/
theorem packetTooBigNotice_congr {packet other : Bytes} (source destination : Ipv6Address)
    (mtu : UInt32) (same : packet.take ipv6QuoteRoom = other.take ipv6QuoteRoom) :
    packetTooBigNotice packet source destination mtu =
      packetTooBigNotice other source destination mtu := by
  simp only [packetTooBigNotice, packetTooBigMessage, same]

/-- Bytes behind a packet show in a notice about it unless the packet fills the notice. -/
theorem packetTooBigNotice_append_iff (packet trailing : Bytes)
    (source destination : Ipv6Address) (mtu : UInt32) :
    packetTooBigNotice (packet ++ trailing) source destination mtu =
        packetTooBigNotice packet source destination mtu ↔
      trailing = [] ∨ ipv6QuoteRoom ≤ packet.length := by
  constructor
  · intro same
    have lengths := congrArg (fun notice => notice.bytes.length) same
    simp only [length_packetTooBigNotice, List.length_append] at lengths
    rw [← List.length_eq_zero_iff]
    omega
  · rintro (rfl | full)
    · rw [List.append_nil]
    · exact packetTooBigNotice_congr _ _ _ (List.take_append_of_le_length full)

end Icmp

/-! ## Plans for a packet with bytes behind it -/

namespace Plan

variable {table : MappingTable} {packet : Bytes}

theorem forwardIpv4_append {datagram : Ipv4Datagram}
    (exact : datagram.fields.totalLength.toNat = packet.length) (trailing : Bytes)
    (protocol : UpperProtocol) :
    forwardIpv4 table (packet ++ trailing) datagram protocol =
      forwardIpv4 table packet datagram protocol := by
  unfold forwardIpv4
  rw [exact, List.take_left, List.take_length]

/-- The plan for an IPv4 packet is the plan for its declared part. -/
theorem ofIpv4_append (exact : declaredLength? .inet packet = some packet.length)
    (trailing : Bytes) : ofIpv4 table (packet ++ trailing) = ofIpv4 table packet := by
  unfold ofIpv4
  rw [Ipv4Datagram.read_append exact]
  cases read : Ipv4Datagram.read packet with
  | error reason => rfl
  | ok datagram =>
      obtain ⟨rest, header⟩ := Ipv4Datagram.fields_of_read read
      have total : datagram.fields.totalLength.toNat = packet.length := by
        rw [declaredLength?, header] at exact
        exact Option.some.inj exact
      simp only [ofIcmp, forwardIpv4_append total]

/-- The plan with other bytes for the packet as it arrived. -/
def arrivedAs (arrived : Bytes) : Plan → Plan
  | .toIpv4 sender _ crossing => .toIpv4 sender arrived crossing
  | plan => plan

/-- The plan for an IPv6 packet is the plan for its declared part, except that it knows the packet
as it arrived. -/
theorem ofIpv6_append (exact : declaredLength? .inet6 packet = some packet.length)
    (trailing : Bytes) :
    ofIpv6 table (packet ++ trailing) =
      (ofIpv6 table packet).map (arrivedAs (packet ++ trailing)) := by
  unfold ofIpv6
  rw [Ipv6Datagram.read_append exact]
  cases Ipv6Datagram.read packet with
  | error reason => rfl
  | ok datagram =>
      simp only
      split
      next => cases Icmp.readPacketTooBig datagram.payload <;> rfl
      next =>
        split
        next =>
          unfold forwardIpv6
          cases SixToFour.ofDatagram table datagram <;> rfl
        next => cases SixToSix.packet table datagram <;> rfl
        next => rfl

end Plan

namespace Translator

/-- A packet is cut on its way to IPv4 and its sender is told so, in a notice that has room for
more than the packet. -/
structure Overquoted (translator : Translator) (surroundings : Surroundings) (family : Family)
    (packet : Bytes) (view : PacketView) (after : Endpoints) : Prop where
  read : PacketView.read? family packet = some view
  leads : translator.table.Leads .sixToFour view.endpoints after
  forwarded : ∃ packets,
    (translator.step surroundings family packet).result = .ok packets ∧ packets ≠ []
  cut : (translator.pathMtu.lookup after.destination).toNat <
    Ipv4Fields.byteLength + view.payload.length
  granted : (translator.tooBigLimiter.acquire surroundings.now).1 = true
  answers : surroundings.answers view.endpoints.source = true
  room : packet.length < Icmp.ipv6QuoteRoom

/-- What bytes behind a packet change: nothing about the translator or the log, and of what is sent
only the notice that quotes them. -/
structure ShowsTrailing (translator : Translator) (surroundings : Surroundings) (family : Family)
    (packet trailing : Bytes) : Prop where
  translator_eq : (translator.step surroundings family (packet ++ trailing)).translator =
    (translator.step surroundings family packet).translator
  log_eq : (translator.step surroundings family (packet ++ trailing)).log =
    (translator.step surroundings family packet).log
  result_iff : (translator.step surroundings family (packet ++ trailing)).result =
      (translator.step surroundings family packet).result ↔
    trailing = [] ∨ ¬ ∃ view after, Overquoted translator surroundings family packet view after
  quoted : ∀ view after, Overquoted translator surroundings family packet view after →
    ∃ sender source mtu rest, view.endpoints.source = .v6 sender ∧
      (translator.step surroundings family packet).result =
        .ok (Icmp.packetTooBigNotice packet source sender mtu :: rest) ∧
      (translator.step surroundings family (packet ++ trailing)).result =
        .ok (Icmp.packetTooBigNotice (packet ++ trailing) source sender mtu :: rest)

variable {translator : Translator} {surroundings : Surroundings} {family : Family}
  {packet : Bytes} {datagram : Ipv6Datagram} {crossing : SixToFour}

/-- When a packet that goes to IPv4 is quoted with bytes behind its end. -/
theorem exists_overquoted_iff (surroundings : Surroundings)
    (read : Ipv6Datagram.read packet = .ok datagram)
    (made : Plan.ofPacket translator.table .inet6 packet =
      .ok (.toIpv4 datagram.fields.source packet crossing)) :
    (∃ view after, Overquoted translator surroundings .inet6 packet view after) ↔
      (crossing.isSplit (translator.pathMtu.lookup (.v4 crossing.destination)) &&
        ((translator.tooBigLimiter.acquire surroundings.now).1 &&
          surroundings.answers (.v6 datagram.fields.source))) = true ∧
        packet.length < Icmp.ipv6QuoteRoom := by
  have shown := PacketView.read?_of_ipv6 read
  have suits := Plan.suits shown made
  cases suits with
  | toIpv4 _ _ leads converted carries fits unfragmented =>
      have length : crossing.payload.length = datagram.payload.length :=
        PacketView.length_convert rfl rfl converted
      have cut : crossing.isSplit (translator.pathMtu.lookup (.v4 crossing.destination)) = true ↔
          (translator.pathMtu.lookup crossing.endpoints.destination).toNat <
            Ipv4Fields.byteLength + (PacketView.ofIpv6 datagram).payload.length := by
        rw [SixToFour.isSplit, decide_eq_true_iff, length]
        rfl
      rw [Bool.and_eq_true, Bool.and_eq_true, cut]
      constructor
      · rintro ⟨view, after, overquoted⟩
        cases shown.symm.trans overquoted.read
        obtain ⟨-, rfl⟩ := leads.unique overquoted.leads
        exact ⟨⟨overquoted.cut, overquoted.granted, overquoted.answers⟩, overquoted.room⟩
      · rintro ⟨⟨exceeds, granted, answers⟩, room⟩
        have forwards := forwards_toIpv4 surroundings (Plan.suits shown made)
          (PacketView.offset_aligned shown)
        exact ⟨_, _, shown, leads, ⟨_, result_of_plan made, forwards.ne_nil⟩, exceeds, granted,
          answers, room⟩

/-- What is sent for packets that go to IPv4 alike differs in the packet that the notice quotes. -/
theorem exists_result_toIpv4 (translator : Translator) (surroundings : Surroundings)
    (sender : Ipv6Address) (crossing : SixToFour) :
    ∃ source, ∀ arrived,
      Plan.ofPacket translator.table .inet6 arrived = .ok (.toIpv4 sender arrived crossing) →
      (translator.step surroundings .inet6 arrived).result = .ok (
        (if crossing.isSplit (translator.pathMtu.lookup (.v4 crossing.destination)) &&
            ((translator.tooBigLimiter.acquire surroundings.now).1 &&
              surroundings.answers (.v6 sender)) then
          [Icmp.packetTooBigNotice arrived source sender
            (SixToFour.advertisedMtu (translator.pathMtu.lookup (.v4 crossing.destination)))]
        else []) ++
          crossing.packets (translator.pathMtu.lookup (.v4 crossing.destination))
            surroundings.drawn) := by
  obtain ⟨source, notices⟩ := translator.exists_noticesIpv6 surroundings sender crossing
  refine ⟨source, fun arrived made => ?_⟩
  rw [result_of_plan made, packets_carryOut_toIpv4, notices]

/-- A packet that goes to IPv4, with and without bytes behind it. -/
theorem showsTrailing_toIpv4 (exact : declaredLength? .inet6 packet = some packet.length)
    (read : Ipv6Datagram.read packet = .ok datagram)
    (made : Plan.ofPacket translator.table .inet6 packet =
      .ok (.toIpv4 datagram.fields.source packet crossing)) (trailing : Bytes) :
    translator.ShowsTrailing surroundings .inet6 packet trailing := by
  have madeLonger : Plan.ofPacket translator.table .inet6 (packet ++ trailing) =
      .ok (.toIpv4 datagram.fields.source (packet ++ trailing) crossing) :=
    (Plan.ofIpv6_append exact trailing).trans (congrArg (Except.map _) made)
  obtain ⟨source, results⟩ := exists_result_toIpv4 translator surroundings
    datagram.fields.source crossing
  have overquoted := exists_overquoted_iff surroundings read made
  have alone := results packet made
  have longer := results (packet ++ trailing) madeLonger
  generalize (crossing.isSplit (translator.pathMtu.lookup (.v4 crossing.destination)) &&
    ((translator.tooBigLimiter.acquire surroundings.now).1 &&
      surroundings.answers (.v6 datagram.fields.source))) = notified
    at overquoted alone longer
  refine ⟨?_, ?_, ?_, ?_⟩
  · simp only [step, made, madeLonger, translator_carryOut_toIpv4]
  · simp only [step, made, madeLonger]
    exact translator.log_carryOut_toIpv4 surroundings _ _ _ _
  · rw [alone, longer, overquoted]
    cases notified with
    | false => simp
    | true => simp [Icmp.packetTooBigNotice_append_iff]
  · intro view after short
    obtain ⟨rfl, -⟩ := overquoted.mp ⟨view, after, short⟩
    have shown := PacketView.read?_of_ipv6 read
    cases shown.symm.trans short.read
    exact ⟨datagram.fields.source, source, _, _, rfl, alone, longer⟩

/-- A packet that is treated alike with and without bytes behind it, and is not quoted with
them. -/
theorem showsTrailing_of_same {trailing : Bytes}
    (same : translator.step surroundings family (packet ++ trailing) =
      translator.step surroundings family packet)
    (unquoted : ∀ view after, ¬ Overquoted translator surroundings family packet view after) :
    translator.ShowsTrailing surroundings family packet trailing where
  translator_eq := congrArg Step.translator same
  log_eq := congrArg Step.log same
  result_iff := ⟨fun _ => .inr fun ⟨view, after, quoted⟩ => unquoted view after quoted,
    fun _ => congrArg Step.result same⟩
  quoted view after quoted := absurd quoted (unquoted view after)

/-- **Bytes behind the declared end of a packet change nothing, unless the packet is quoted in a
notice that has room for them.** Then the notice quotes them, and nothing else is different. -/
theorem trailing_ignored_iff (exact : declaredLength? family packet = some packet.length)
    (translator : Translator) (surroundings : Surroundings) (trailing : Bytes) :
    translator.ShowsTrailing surroundings family packet trailing := by
  cases family with
  | inet =>
      refine showsTrailing_of_same (step_congr (Plan.ofIpv4_append exact trailing))
        fun view after quoted => ?_
      have origin := (PacketView.families quoted.read).1.symm.trans quoted.leads.origin.1
      cases origin
  | inet6 =>
      have mapped : Plan.ofPacket translator.table .inet6 (packet ++ trailing) =
          (Plan.ofPacket translator.table .inet6 packet).map
            (Plan.arrivedAs (packet ++ trailing)) := Plan.ofIpv6_append exact trailing
      cases planned : Plan.ofPacket translator.table .inet6 packet with
      | error reason =>
          refine showsTrailing_of_same (step_congr (by rw [mapped, planned]; rfl))
            fun view after quoted => ?_
          obtain ⟨packets, accepted, -⟩ := quoted.forwarded
          obtain ⟨plan, made, -⟩ := exists_plan_of_accepted accepted
          cases planned.symm.trans made
      | ok plan =>
          cases Plan.made planned with
          | absorbIpv6 read message reported =>
              refine showsTrailing_of_same (step_congr (by rw [mapped, planned]; rfl))
                fun view after quoted => ?_
              obtain ⟨packets, accepted, sends⟩ := quoted.forwarded
              cases (result_of_plan planned).symm.trans accepted
              exact sends rfl
          | toIpv4 read message chosen crosses =>
              exact showsTrailing_toIpv4 exact read planned trailing
          | withinIpv6 read message chosen becomes =>
              refine showsTrailing_of_same (step_congr (by rw [mapped, planned]; rfl))
                fun view after quoted => ?_
              cases Plan.suits quoted.read planned with
              | withinIpv6 leads converted family shown =>
                  cases (leads.unique quoted.leads).1

/-- A host from which no notice can be sent does not look behind the end of a packet. -/
theorem trailing_ignored_unanswered :
    declaredLength? .inet6 (Sample.wholePacket (List.replicate 56 0)) = some 96 ∧
      (Sample.translator.step Sample.surroundings .inet6
          (Sample.wholePacket (List.replicate 56 0) ++ [0xff])).result =
        (Sample.translator.step Sample.surroundings .inet6
          (Sample.wholePacket (List.replicate 56 0))).result := by
  have exact : declaredLength? .inet6 (Sample.wholePacket (List.replicate 56 0)) = some 96 := by
    decide +kernel
  refine ⟨exact, (trailing_ignored_iff exact Sample.translator Sample.surroundings
    [0xff]).result_iff.mpr (.inr ?_)⟩
  rintro ⟨view, after, quoted⟩
  cases quoted.answers

/-- **A byte behind the end of a packet shows in the notice about it.** -/
theorem trailing_byte_quoted :
    Sample.translator.Reachable ∧
      declaredLength? .inet6 (Sample.wholePacket (List.replicate 56 0)) = some 96 ∧
      (Sample.wholePacket (List.replicate 56 0)).length = 96 ∧
      (Sample.translator.step Sample.answering .inet6
          (Sample.wholePacket (List.replicate 56 0) ++ [0xff])).result ≠
        (Sample.translator.step Sample.answering .inet6
          (Sample.wholePacket (List.replicate 56 0))).result := by
  have exact : declaredLength? .inet6 (Sample.wholePacket (List.replicate 56 0)) = some 96 := by
    decide +kernel
  obtain ⟨datagram, crossing, read, made, destination, length⟩ : ∃ datagram crossing,
      Ipv6Datagram.read (Sample.wholePacket (List.replicate 56 0)) = .ok datagram ∧
      Plan.ofPacket Sample.translator.table .inet6 (Sample.wholePacket (List.replicate 56 0)) =
        .ok (.toIpv4 datagram.fields.source (Sample.wholePacket (List.replicate 56 0)) crossing) ∧
      crossing.destination = Sample.remote ∧ crossing.payload.length = 56 :=
    ⟨_, _, rfl, rfl, rfl, rfl⟩
  have quoted : ∃ view after, Overquoted Sample.translator Sample.answering .inet6
      (Sample.wholePacket (List.replicate 56 0)) view after := by
    rw [exists_overquoted_iff Sample.answering read made, SixToFour.isSplit, destination,
      Sample.lookup_remote, length]
    exact ⟨rfl, by decide⟩
  refine ⟨Sample.reachable, exact, rfl, fun same => ?_⟩
  rcases (showsTrailing_toIpv4 exact read made [0xff]).result_iff.mp same with empty | unquoted
  · cases empty
  · exact unquoted quoted

end Translator

end FamilyGateway
