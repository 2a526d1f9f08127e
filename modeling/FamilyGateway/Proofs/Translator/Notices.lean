import FamilyGateway.Proofs.Translator.Emission
import FamilyGateway.Proofs.Translator.Frame

/-!
# Telling notices from the packets that carry the payload on

A receiver takes a packet for a notice if it is a message that reports a path MTU
(`OutboundPacket.isNotice`). Every notice to a sender is one
(`Icmp.notifies_fragmentationNeeded`, `Icmp.notifies_packetTooBig`). No packet that carries a
payload on is one: an echo message crosses as an echo message, what is in fragments reports
nothing, and within IPv6 a packet is what it was when it arrived, when it was no report
either (`PacketView.not_reportsMtu_sent`).

So the notices among the packets that are sent are exactly those in front
(`Translator.filter_isNotice`, `Translator.filter_not_isNotice`), and there is at most one, to the
sender of a packet that is no message, or an echo message (`Translator.announces_of_plan`).
-/

set_option autoImplicit false

namespace FamilyGateway

open OutboundPacket (view?)

/-! ## Notices -/

instance (view : PacketView) : (family : Family) → Decidable (view.ReportsMtu family)
  | .inet => inferInstanceAs (Decidable (_ ∧ _ ∧ _))
  | .inet6 => inferInstanceAs (Decidable (_ ∧ _ ∧ _))

namespace OutboundPacket

/-- Whether a receiver takes the packet for a notice of the size that would have fitted. -/
def isNotice (packet : OutboundPacket) : Bool :=
  (view? packet).any fun view => view.ReportsMtu packet.family

theorem isNotice_of_view? {packet : OutboundPacket} {view : PacketView}
    (seen : view? packet = some view) :
    packet.isNotice = decide (view.ReportsMtu packet.family) := by
  rw [isNotice, seen]
  rfl

/-- The packet is a notice of a family to a sender. -/
structure Notifies (notice : OutboundPacket) (family : Family) (sender : Address) : Prop where
  family : notice.family = family
  isNotice : notice.isNotice = true
  addressed : ∃ shown, view? notice = some shown ∧ shown.endpoints.destination = sender

theorem Notifies.of_view? {notice : OutboundPacket} {family : Family} {sender : Address}
    {shown : PacketView} (same : notice.family = family) (seen : view? notice = some shown)
    (reports : shown.ReportsMtu family) (towards : shown.endpoints.destination = sender) :
    notice.Notifies family sender where
  family := same
  isNotice := by
    rw [isNotice_of_view? seen, same]
    exact decide_eq_true reports
  addressed := ⟨shown, seen, towards⟩

end OutboundPacket

namespace Icmp

theorem notifies_fragmentationNeeded (packet : Bytes) (source destination : Ipv4Address)
    (mtu : UInt16) :
    (fragmentationNeededNotice packet source destination mtu).Notifies .inet
      (.v4 destination) := by
  have short := length_fragmentationNeededMessage_le packet mtu
  exact .of_view? rfl
    (OutboundPacket.view?_ipv4 _ .icmp (fragmentationNeededMessage packet mtu).encode rfl rfl
      (by omega))
    ⟨rfl, rfl, rfl⟩ rfl

theorem notifies_packetTooBig (packet : Bytes) (source destination : Ipv6Address)
    (mtu : UInt32) :
    (packetTooBigNotice packet source destination mtu).Notifies .inet6 (.v6 destination) := by
  have short := length_packetTooBigMessage_le packet source destination mtu
  exact .of_view? rfl
    (OutboundPacket.view?_plain _ .icmp (packetTooBigMessage packet source destination mtu).encode
      (Ipv6Header.version_fields _ _) (Nat.mod_eq_of_lt (by omega)) rfl)
    ⟨rfl, rfl, rfl⟩ rfl

end Icmp

/-! ## Echo messages -/

/-- The packet begins with the type of an echo request or an echo reply of its family. -/
def PacketView.IsEcho (view : PacketView) : Family → Prop
  | .inet => view.payload.head? = some Icmp.echoRequest ∨
      view.payload.head? = some Icmp.echoReply
  | .inet6 => view.payload.head? = some Icmp.echoRequestV6 ∨
      view.payload.head? = some Icmp.echoReplyV6

namespace Icmp

theorem typeInIpv6?_cases {type converted : UInt8} (named : typeInIpv6? type = some converted) :
    type = echoRequest ∧ converted = echoRequestV6 ∨
      type = echoReply ∧ converted = echoReplyV6 := by
  unfold typeInIpv6? at named
  split at named
  next request => cases named; exact .inl ⟨request, rfl⟩
  next =>
    split at named
    next reply => cases named; exact .inr ⟨reply, rfl⟩
    next => cases named

theorem typeInIpv4?_cases {type converted : UInt8} (named : typeInIpv4? type = some converted) :
    type = echoRequestV6 ∧ converted = echoRequest ∨
      type = echoReplyV6 ∧ converted = echoReply := by
  unfold typeInIpv4? at named
  split at named
  next request => cases named; exact .inl ⟨request, rfl⟩
  next =>
    split at named
    next reply => cases named; exact .inr ⟨reply, rfl⟩
    next => cases named

/-- Only an echo message crosses to IPv6, and it is one there. -/
theorem head?_toIpv6 {pseudoSum : UInt32} {bytes result : Bytes}
    (ok : toIpv6 pseudoSum bytes = .ok result) :
    (bytes.head? = some echoRequest ∧ result.head? = some echoRequestV6) ∨
      (bytes.head? = some echoReply ∧ result.head? = some echoReplyV6) := by
  obtain ⟨message, type, rfl, named, rfl⟩ := toIpv6_ok ok
  show (some message.type = _ ∧ some type = _) ∨ (some message.type = _ ∧ some type = _)
  rcases typeInIpv6?_cases named with ⟨request, converted⟩ | ⟨reply, converted⟩
  · exact .inl ⟨congrArg some request, congrArg some converted⟩
  · exact .inr ⟨congrArg some reply, congrArg some converted⟩

/-- Only an echo message crosses to IPv4, and it is one there. -/
theorem head?_toIpv4 {pseudoSum : UInt32} {bytes result : Bytes}
    (ok : toIpv4 pseudoSum bytes = .ok result) :
    (bytes.head? = some echoRequestV6 ∧ result.head? = some echoRequest) ∨
      (bytes.head? = some echoReplyV6 ∧ result.head? = some echoReply) := by
  obtain ⟨message, type, rfl, named, rfl⟩ := toIpv4_ok ok
  show (some message.type = _ ∧ some type = _) ∨ (some message.type = _ ∧ some type = _)
  rcases typeInIpv4?_cases named with ⟨request, converted⟩ | ⟨reply, converted⟩
  · exact .inl ⟨congrArg some request, congrArg some converted⟩
  · exact .inr ⟨congrArg some reply, congrArg some converted⟩

end Icmp

/-- New endpoints leave the first byte of a segment alone, for no checksum stands there. -/
theorem Segment.head?_readdress {protocol : UpperProtocol} {before after : Endpoints}
    {fragmented : Bool} {segment result : Bytes}
    (ok : readdress protocol before after fragmented segment = .ok result) :
    result.head? = segment.head? := by
  rw [List.head?_eq_getElem?, List.head?_eq_getElem?]
  refine getElem?_readdress ok ?_ (Nat.succ_ne_zero _).symm
  cases protocol <;> decide

/-! ## Packets that carry a payload on -/

/-- A packet that is no fragment carries all that is to be covered. -/
theorem Covers.payload_of_whole {more : Bool} {views : List PacketView} {bytes : Bytes}
    (covers : Covers more 0 views bytes) {view : PacketView} (member : view ∈ views)
    (whole : view.isFragment = false) : view.payload = bytes := by
  by_cases several : 2 ≤ views.length
  · rw [covers.isFragment several view member] at whole
    cases whole
  · cases covers with
    | last only placed flag => rw [List.mem_singleton.mp member]
    | cons first placed flag carries aligned remains later =>
        have rest := List.length_pos_iff.mpr later.ne_nil
        rw [List.length_cons] at several
        omega

namespace PacketView

variable {view : PacketView} {way : Way} {after : Endpoints} {payload : Bytes}

theorem offset_of_whole (whole : view.isFragment = false) : view.offset = 0 := by
  rw [isFragment, Bool.or_eq_false_iff, bne_eq_false_iff_eq] at whole
  exact whole.2

/-- A message that crosses in one piece is an echo message, and one where it arrives. -/
theorem isEcho_of_convert_fourToSix (led : after.source.family = after.destination.family)
    (message : view.protocol = .icmp) (whole : view.isFragment = false)
    (converted : view.convert .fourToSix after = .ok payload) :
    view.IsEcho .inet ∧
      (payload.head? = some Icmp.echoRequestV6 ∨ payload.head? = some Icmp.echoReplyV6) := by
  rw [convert_of_echo_fourToSix (offset_of_whole whole) message] at converted
  rcases Icmp.head?_toIpv6 (Icmp.cross_ok led converted) with ⟨was, is⟩ | ⟨was, is⟩
  · exact ⟨.inl was, .inl is⟩
  · exact ⟨.inr was, .inr is⟩

/-- A message that crosses in one piece is an echo message, and one where it arrives. -/
theorem isEcho_of_convert_sixToFour
    (leads : view.endpoints.source.family = view.endpoints.destination.family)
    (message : view.protocol = .icmp) (whole : view.isFragment = false)
    (converted : view.convert .sixToFour after = .ok payload) :
    view.IsEcho .inet6 ∧
      (payload.head? = some Icmp.echoRequest ∨ payload.head? = some Icmp.echoReply) := by
  rw [convert_of_echo_sixToFour (offset_of_whole whole) message] at converted
  rcases Icmp.head?_toIpv4 (Icmp.cross_ok leads converted) with ⟨was, is⟩ | ⟨was, is⟩
  · exact ⟨.inl was, .inl is⟩
  · exact ⟨.inr was, .inr is⟩

variable {mtu : UInt16} {drawn : UInt32}

/-- What crosses to IPv6 is no report: a message without a Fragment header is an echo message. -/
theorem not_reportsMtu_sent_fourToSix (led : after.source.family = after.destination.family)
    (converted : view.convert .fourToSix after = .ok payload)
    (unfragmented : view.protocol = .icmp → view.isFragment = false) :
    ∀ shown ∈ view.sent .fourToSix after mtu drawn payload, ¬ shown.ReportsMtu .inet6 := by
  refine forall_sent ?_ ?_
  · rintro ⟨icmp, -, tooBig⟩
    have message : view.protocol = .icmp := icmp
    have front : payload.head? = some Icmp.packetTooBig := tooBig
    rcases (isEcho_of_convert_fourToSix led message (unfragmented message) converted).2 with
      request | reply
    · exact absurd (front.symm.trans request) (by decide)
    · exact absurd (front.symm.trans reply) (by decide)
  · rintro piece ⟨-, identified, -⟩
    exact Option.some_ne_none _ identified

/-- What crosses to IPv4 is no report: a message that is no fragment is an echo message. -/
theorem not_reportsMtu_sent_sixToFour
    (leads : view.endpoints.source.family = view.endpoints.destination.family)
    (converted : view.convert .sixToFour after = .ok payload)
    (unfragmented : view.protocol = .icmp → view.isFragment = false) :
    ∀ shown ∈ view.sent .sixToFour after mtu drawn payload, ¬ shown.ReportsMtu .inet := by
  rintro shown member ⟨icmp, whole, needed⟩
  have message : view.protocol = .icmp := (headers_sent shown member).2.1.symm.trans icmp
  have covers : Covers view.moreFragments view.offset
      (view.sent .sixToFour after mtu drawn payload) payload := covers_sent
  rw [offset_of_whole (unfragmented message)] at covers
  rw [covers.payload_of_whole member whole] at needed
  have front : payload.head? = some Icmp.unreachable := by
    have taken := congrArg List.head? needed
    rw [List.head?_take, if_neg (Nat.succ_ne_zero 1)] at taken
    exact taken
  rcases (isEcho_of_convert_sixToFour leads message (unfragmented message) converted).2 with
    request | reply
  · exact absurd (front.symm.trans request) (by decide)
  · exact absurd (front.symm.trans reply) (by decide)

/-- What stays in IPv6 begins as it did. -/
theorem head?_convert_sixToSix (converted : view.convert .sixToSix after = .ok payload) :
    payload.head? = view.payload.head? := by
  by_cases first : view.offset = 0
  · rw [convert_of_segment first fun _ => rfl] at converted
    exact Segment.head?_readdress converted
  · rw [convert_of_offset first] at converted
    cases converted
    rfl

/-- What stays in IPv6 is no report if it was none. -/
theorem not_reportsMtu_sent_sixToSix (converted : view.convert .sixToSix after = .ok payload)
    (other : ¬ view.ReportsMtu .inet6) :
    ¬ (view.whole .sixToSix after drawn payload).ReportsMtu .inet6 := by
  rintro ⟨message, identification, tooBig⟩
  have front : payload.head? = some Icmp.packetTooBig := tooBig
  rw [head?_convert_sixToSix converted] at front
  exact other ⟨message, identification, front⟩

end PacketView

/-- The way of packets of a family to the other one. -/
def Way.across : Family → Way
  | .inet => .fourToSix
  | .inet6 => .sixToFour

theorem Way.origin_across (family : Family) : (Way.across family).origin = family := by
  cases family <;> rfl

theorem Way.target_across_ne (family : Family) : (Way.across family).target ≠ family := by
  cases family <;> exact Family.noConfusion

/-! ## What is sent for a packet with a plan -/

/-- Packets that show no reports are no notices. -/
theorem OutboundPacket.not_isNotice_of_shown {family : Family} {packets : List OutboundPacket}
    {views : List PacketView} (same : ∀ packet ∈ packets, packet.family = family)
    (shown : packets.map view? = views.map some)
    (others : ∀ view ∈ views, ¬ view.ReportsMtu family) :
    ∀ packet ∈ packets, packet.isNotice = false := by
  intro packet member
  obtain ⟨view, listed, seen⟩ := exists_of_shown shown packet member
  rw [isNotice_of_view? seen, same packet member]
  exact decide_eq_false (others view listed)

namespace Translator

variable {translator : Translator} {surroundings : Surroundings} {family : Family}
  {packet : Bytes} {view : PacketView} {plan : Plan}

/-- What is sent for a packet: at most one notice, to its sender, and packets that are no notices.
Of messages only echo messages are announced. -/
structure Announces (family : Family) (view : PacketView)
    (notices carried : List OutboundPacket) : Prop where
  announced : ∀ notice ∈ notices, notice.Notifies family view.endpoints.source
  silent : ∀ output ∈ carried, output.isNotice = false
  atMostOne : notices.length ≤ 1
  echo : notices ≠ [] → view.protocol = .icmp → view.IsEcho family

namespace Announces

variable {notices carried : List OutboundPacket}

theorem of_silent (silent : ∀ output ∈ carried, output.isNotice = false) :
    Announces family view [] carried :=
  ⟨List.forall_mem_nil _, silent, Nat.zero_le _, fun announced => absurd rfl announced⟩

theorem filter_isNotice (announces : Announces family view notices carried) :
    (notices ++ carried).filter OutboundPacket.isNotice = notices := by
  rw [List.filter_append, List.filter_eq_self.mpr, List.filter_eq_nil_iff.mpr, List.append_nil]
  · intro output member
    exact Bool.eq_false_iff.mp (announces.silent output member)
  · intro notice member
    exact (announces.announced notice member).isNotice

theorem filter_not_isNotice (announces : Announces family view notices carried) :
    ((notices ++ carried).filter fun output => !output.isNotice) = carried := by
  rw [List.filter_append, List.filter_eq_nil_iff.mpr, List.filter_eq_self.mpr, List.nil_append]
  · intro output member
    rw [announces.silent output member]
    rfl
  · intro notice member
    rw [(announces.announced notice member).isNotice]
    exact Bool.false_ne_true

end Announces

theorem length_noticesOf_le (translator : Translator) (surroundings : Surroundings)
    (plan : Plan) : (translator.noticesOf surroundings plan).length ≤ 1 := by
  cases plan with
  | absorb report => exact Nat.zero_le _
  | absorbUnquoted => exact Nat.zero_le _
  | toIpv6 sender declared crossing =>
      obtain ⟨source, notices⟩ := translator.exists_noticesIpv4 surroundings sender crossing
      rw [noticesOf, notices]
      split
      next => exact Nat.le_refl _
      next => exact Nat.zero_le _
  | toIpv4 sender arrived crossing =>
      obtain ⟨source, notices⟩ := translator.exists_noticesIpv6 surroundings sender crossing
      rw [noticesOf, notices]
      split
      next => exact Nat.le_refl _
      next => exact Nat.zero_le _
  | withinIpv6 packet => exact Nat.zero_le _

/-- **What is sent for a packet with a plan is announced to its sender only.** -/
theorem announces_of_plan (read : PacketView.read? family packet = some view)
    (planned : Plan.ofPacket translator.table family packet = .ok plan) :
    Announces family view (translator.noticesOf surroundings plan)
      (plan.carried translator.pathMtu surroundings.drawn) := by
  have aligned := PacketView.offset_aligned read
  have suits := Plan.suits read planned
  have atMostOne := translator.length_noticesOf_le surroundings plan
  have reports := Plan.reportsMtu_iff read planned
  cases Plan.made planned with
  | absorbIpv4 => exact .of_silent (List.forall_mem_nil _)
  | absorbUnquoted => exact .of_silent (List.forall_mem_nil _)
  | absorbIpv6 => exact .of_silent (List.forall_mem_nil _)
  | @toIpv6 _ _ _ crossing readable named =>
      cases read.symm.trans (PacketView.read?_of_ipv4 readable named)
      cases suits with
      | toIpv6 _ _ leads converted carries fits unfragmented =>
          refine ⟨?_, ?_, atMostOne, fun _ message =>
            (PacketView.isEcho_of_convert_fourToSix leads.one_target message
              (unfragmented message) converted).1⟩
          · exact translator.forall_noticesIpv4 surroundings
              (Icmp.notifies_fragmentationNeeded _ · _) crossing
          · exact OutboundPacket.not_isNotice_of_shown (crossing.family_packets _ _)
              (carries.view?_packets aligned fits _ _)
              (PacketView.not_reportsMtu_sent_fourToSix leads.one_target converted unfragmented)
  | @toIpv4 _ _ crossing readable =>
      cases read.symm.trans (PacketView.read?_of_ipv6 readable)
      cases suits with
      | toIpv4 _ _ leads converted carries fits unfragmented =>
          refine ⟨?_, ?_, atMostOne, fun _ message =>
            (PacketView.isEcho_of_convert_sixToFour leads.one_origin message
              (unfragmented message) converted).1⟩
          · exact translator.forall_noticesIpv6 surroundings
              (Icmp.notifies_packetTooBig _ · _) crossing
          · exact OutboundPacket.not_isNotice_of_shown (crossing.family_packets _ _)
              (carries.view?_packets aligned fits _ _)
              (PacketView.not_reportsMtu_sent_sixToFour leads.one_origin converted unfragmented)
  | @withinIpv6 _ _ outbound =>
      refine .of_silent ?_
      cases suits with
      | withinIpv6 leads converted same shown =>
          have other : ¬ view.ReportsMtu .inet6 := by
            intro report
            rcases reports.mp report with same | ⟨_, same⟩ <;> cases same
          rw [Plan.carried, List.forall_mem_singleton,
            OutboundPacket.isNotice_of_view? (shown surroundings.drawn), same]
          exact decide_eq_false (PacketView.not_reportsMtu_sent_sixToSix converted other)

theorem filter_isNotice (read : PacketView.read? family packet = some view)
    (planned : Plan.ofPacket translator.table family packet = .ok plan) :
    (translator.carryOut surroundings plan).packets.filter OutboundPacket.isNotice =
      translator.noticesOf surroundings plan := by
  rw [packets_carryOut]
  exact (announces_of_plan read planned).filter_isNotice

theorem filter_not_isNotice (read : PacketView.read? family packet = some view)
    (planned : Plan.ofPacket translator.table family packet = .ok plan) :
    ((translator.carryOut surroundings plan).packets.filter fun output => !output.isNotice) =
      plan.carried translator.pathMtu surroundings.drawn := by
  rw [packets_carryOut]
  exact (announces_of_plan read planned).filter_not_isNotice

end Translator

end FamilyGateway
