import FamilyGateway.Proofs.Packet.View
import FamilyGateway.Translator.Basic

/-!
# How plans come about and what carrying them out does

A plan is made in one of six ways (`Plan.Made`), and each of them fixes the packet that
was read, the checks that it passed, and all that the plan says. Whoever asks what
happens to a packet goes through these six ways instead of through the checks
(`Plan.made`), and whoever shows that a packet is accepted makes a plan for it in one of
them (`Plan.of_made`).

Carrying out a plan sends at most one notice, in front of everything else, and asks a
limiter only for a packet that is cut (`Translator.packets_notifyIpv4`,
`Translator.packets_notifyIpv6`). What a packet can change is read off the plan: the cache
by a report, a limiter by a packet that is cut, and nothing else (`Translator.Changes`,
`Translator.step_cases`).
-/

set_option autoImplicit false

namespace FamilyGateway

/-! ## Plans -/

namespace Plan

/-- The plan is the one that is made for a packet of a family. -/
inductive Made (table : MappingTable) : Family → Bytes → Plan → Prop where
  | absorbIpv4 {packet : Bytes} {datagram : Ipv4Datagram} {report : Option Icmp.Report}
      (read : Ipv4Datagram.read packet = .ok datagram)
      (named : UpperProtocol.ofNumber? .inet datagram.fields.protocol = some .icmp)
      (whole : datagram.isFragment = false)
      (advice : Icmp.advise datagram.payload = .ok (.discard report)) :
      Made table .inet packet (.absorb report)
  | absorbUnquoted {packet : Bytes} {datagram : Ipv4Datagram}
      (read : Ipv4Datagram.read packet = .ok datagram)
      (named : UpperProtocol.ofNumber? .inet datagram.fields.protocol = some .icmp)
      (whole : datagram.isFragment = false)
      (advice : Icmp.advise datagram.payload = .ok .discardUnquoted) :
      Made table .inet packet .absorbUnquoted
  | toIpv6 {packet : Bytes} {datagram : Ipv4Datagram} {protocol : UpperProtocol}
      {crossing : FourToSix} (read : Ipv4Datagram.read packet = .ok datagram)
      (named : UpperProtocol.ofNumber? .inet datagram.fields.protocol = some protocol)
      (fits : datagram.fields.fragmentOffset.toNat + datagram.payload.length ≤ maxDatagram)
      (message : protocol = .icmp →
        datagram.isFragment = false ∧ Icmp.advise datagram.payload = .ok .forward)
      (crosses : FourToSix.ofDatagram table datagram protocol = .ok crossing) :
      Made table .inet packet
        (.toIpv6 datagram.fields.source (packet.take datagram.fields.totalLength.toNat) crossing)
  | absorbIpv6 {packet : Bytes} {datagram : Ipv6Datagram} {report : Icmp.Report}
      (read : Ipv6Datagram.read packet = .ok datagram) (message : isPacketTooBig datagram = true)
      (reported : Icmp.readPacketTooBig datagram.payload = .ok report) :
      Made table .inet6 packet (.absorb (some report))
  | toIpv4 {packet : Bytes} {datagram : Ipv6Datagram} {crossing : SixToFour}
      (read : Ipv6Datagram.read packet = .ok datagram)
      (message : isPacketTooBig datagram = false)
      (chosen : table.classify datagram.fields.source datagram.fields.destination =
        some .sixToFour)
      (crosses : SixToFour.ofDatagram table datagram = .ok crossing) :
      Made table .inet6 packet (.toIpv4 datagram.fields.source packet crossing)
  | withinIpv6 {packet : Bytes} {datagram : Ipv6Datagram} {outbound : OutboundPacket}
      (read : Ipv6Datagram.read packet = .ok datagram)
      (message : isPacketTooBig datagram = false)
      (chosen : table.classify datagram.fields.source datagram.fields.destination =
        some .sixToSix)
      (becomes : SixToSix.packet table datagram = .ok outbound) :
      Made table .inet6 packet (.withinIpv6 outbound)

variable {table : MappingTable} {packet : Bytes} {plan : Plan}

theorem made_forwardIpv4 {datagram : Ipv4Datagram} {protocol : UpperProtocol}
    (read : Ipv4Datagram.read packet = .ok datagram)
    (named : UpperProtocol.ofNumber? .inet datagram.fields.protocol = some protocol)
    (fits : datagram.fields.fragmentOffset.toNat + datagram.payload.length ≤ maxDatagram)
    (message : protocol = .icmp →
      datagram.isFragment = false ∧ Icmp.advise datagram.payload = .ok .forward)
    (ok : forwardIpv4 table packet datagram protocol = .ok plan) :
    Made table .inet packet plan := by
  unfold forwardIpv4 at ok
  split at ok
  next => cases ok
  next crossing crosses =>
    cases ok
    exact .toIpv6 read named fits message crosses

theorem made_ofIpv4 (ok : ofIpv4 table packet = .ok plan) : Made table .inet packet plan := by
  unfold ofIpv4 at ok
  split at ok
  next => cases ok
  next datagram read =>
    split at ok
    next => cases ok
    next fits =>
      have fits := Nat.le_of_not_lt fits
      split at ok
      next => cases ok
      next named =>
        unfold ofIcmp at ok
        split at ok
        next => cases ok
        next fragment =>
          have whole := Bool.eq_false_iff.mpr fragment
          split at ok
          next => cases ok
          next report advice => cases ok; exact .absorbIpv4 read named whole advice
          next advice => cases ok; exact .absorbUnquoted read named whole advice
          next advice => exact made_forwardIpv4 read named fits (fun _ => ⟨whole, advice⟩) ok
      next protocol segment named =>
        exact made_forwardIpv4 read named fits (fun message => absurd message segment) ok

theorem made_ofIpv6 (ok : ofIpv6 table packet = .ok plan) : Made table .inet6 packet plan := by
  unfold ofIpv6 at ok
  split at ok
  next => cases ok
  next datagram read =>
    split at ok
    next message =>
      split at ok
      next => cases ok
      next report reported => cases ok; exact .absorbIpv6 read message reported
    next other =>
      have message := Bool.eq_false_iff.mpr other
      split at ok
      next chosen =>
        unfold forwardIpv6 at ok
        split at ok
        next => cases ok
        next crossing crosses => cases ok; exact .toIpv4 read message chosen crosses
      next chosen =>
        split at ok
        next => cases ok
        next outbound becomes => cases ok; exact .withinIpv6 read message chosen becomes
      next => cases ok

/-- **Every plan is made in one of the six ways.** -/
theorem made {family : Family} (ok : ofPacket table family packet = .ok plan) :
    Made table family packet plan := by
  cases family with
  | inet => exact made_ofIpv4 ok
  | inet6 => exact made_ofIpv6 ok

/-- A message in one piece ends within the largest datagram. -/
theorem fits_of_whole {datagram : Ipv4Datagram} (read : Ipv4Datagram.read packet = .ok datagram)
    (whole : datagram.isFragment = false) :
    datagram.fields.fragmentOffset.toNat + datagram.payload.length ≤ maxDatagram := by
  have declared := (Ipv4Datagram.sound read).declared
  have bound := datagram.fields.totalLength.toNat_lt
  rw [Ipv4Datagram.isFragment, Bool.or_eq_false_iff, bne_eq_false_iff_eq] at whole
  rw [whole.2, UInt16.toNat_zero, maxDatagram]
  omega

theorem ofIpv4_of_read {datagram : Ipv4Datagram} {protocol : UpperProtocol}
    (read : Ipv4Datagram.read packet = .ok datagram)
    (named : UpperProtocol.ofNumber? .inet datagram.fields.protocol = some protocol)
    (fits : datagram.fields.fragmentOffset.toNat + datagram.payload.length ≤ maxDatagram) :
    ofIpv4 table packet =
      if protocol = .icmp then ofIcmp table packet datagram
      else forwardIpv4 table packet datagram protocol := by
  unfold ofIpv4
  rw [read]
  simp only [if_neg (Nat.not_lt_of_le fits), named]
  cases protocol <;> rfl

/-- A plan that is made in one of the six ways is the one for its packet. -/
theorem of_made {family : Family} (made : Made table family packet plan) :
    ofPacket table family packet = .ok plan := by
  cases made with
  | absorbIpv4 read named whole advice =>
      refine (ofIpv4_of_read read named (fits_of_whole read whole)).trans ?_
      simp only [ofIcmp, whole, Bool.false_eq_true, if_false, if_true, advice]
  | absorbUnquoted read named whole advice =>
      refine (ofIpv4_of_read read named (fits_of_whole read whole)).trans ?_
      simp only [ofIcmp, whole, Bool.false_eq_true, if_false, if_true, advice]
  | @toIpv6 _ _ protocol _ read named fits message crosses =>
      refine (ofIpv4_of_read read named fits).trans ?_
      split
      next icmp =>
        obtain ⟨whole, advice⟩ := message icmp
        obtain rfl := icmp
        simp only [ofIcmp, whole, Bool.false_eq_true, if_false, advice, forwardIpv4, crosses]
      next => simp only [forwardIpv4, crosses]
  | absorbIpv6 read message reported =>
      simp only [ofPacket, ofIpv6, read, message, if_true, reported]
  | toIpv4 read message chosen crosses =>
      simp only [ofPacket, ofIpv6, read, message, Bool.false_eq_true, if_false, chosen, forwardIpv6,
        crosses]
  | withinIpv6 read message chosen becomes =>
      simp only [ofPacket, ofIpv6, read, message, Bool.false_eq_true, if_false, chosen, becomes]

/-- The packets that carry a packet with a plan on. -/
def carried (cache : PathMtu.Cache) (drawn : UInt32) : Plan → List OutboundPacket
  | .toIpv6 _ _ crossing =>
    crossing.packets (cache.lookup (.v6 crossing.destination)) drawn
  | .toIpv4 _ _ crossing =>
    crossing.packets (cache.lookup (.v4 crossing.destination)) drawn
  | .withinIpv6 packet => [packet]
  | .absorb _ | .absorbUnquoted => []

end Plan

/-! ## Notices -/

namespace Surroundings

/-- Whether there is a source address from which to write to a destination. -/
def answers (surroundings : Surroundings) (destination : Address) : Bool :=
  match surroundings.sourceFor destination with
  | .ok source => source.family = destination.family
  | .error _ => false

theorem answers_v4 (surroundings : Surroundings) (destination : Ipv4Address) :
    surroundings.answers (.v4 destination) =
      (surroundings.ipv4Source destination).toOption.isSome := by
  unfold answers ipv4Source
  cases surroundings.sourceFor (.v4 destination) with
  | error reason => rfl
  | ok source => cases source <;> rfl

theorem answers_v6 (surroundings : Surroundings) (destination : Ipv6Address) :
    surroundings.answers (.v6 destination) =
      (surroundings.ipv6Source destination).toOption.isSome := by
  unfold answers ipv6Source
  cases surroundings.sourceFor (.v6 destination) with
  | error reason => rfl
  | ok source => cases source <;> rfl

end Surroundings

namespace Translator

variable (translator : Translator) (surroundings : Surroundings)

/-- What is sent to the sender of an IPv4 packet. It hangs on the limiter and the choice of a
source address only, whatever packet it is about. -/
theorem packets_notifyIpv4 (sender : Ipv4Address) :
    ∃ source, ∀ packet mtu,
      (translator.notifyIpv4 surroundings packet sender mtu).packets =
        if (translator.needFragLimiter.acquire surroundings.now).1 &&
            surroundings.answers (.v4 sender) then
          [Icmp.fragmentationNeededNotice packet source sender mtu]
        else [] := by
  simp only [notifyIpv4, surroundings.answers_v4]
  cases surroundings.ipv4Source sender with
  | ok source =>
      refine ⟨source, fun packet mtu => ?_⟩
      cases (translator.needFragLimiter.acquire surroundings.now).1 <;> rfl
  | error line =>
      refine ⟨default, fun packet mtu => ?_⟩
      cases (translator.needFragLimiter.acquire surroundings.now).1 <;> rfl

/-- What is sent to the sender of an IPv6 packet. It hangs on the limiter and the choice of a
source address only, whatever packet it is about. -/
theorem packets_notifyIpv6 (sender : Ipv6Address) :
    ∃ source, ∀ packet mtu,
      (translator.notifyIpv6 surroundings packet sender mtu).packets =
        if (translator.tooBigLimiter.acquire surroundings.now).1 &&
            surroundings.answers (.v6 sender) then
          [Icmp.packetTooBigNotice packet source sender mtu]
        else [] := by
  simp only [notifyIpv6, surroundings.answers_v6]
  cases surroundings.ipv6Source sender with
  | ok source =>
      refine ⟨source, fun packet mtu => ?_⟩
      cases (translator.tooBigLimiter.acquire surroundings.now).1 <;> rfl
  | error line =>
      refine ⟨default, fun packet mtu => ?_⟩
      cases (translator.tooBigLimiter.acquire surroundings.now).1 <;> rfl

theorem translator_notifyIpv4 (packet : Bytes) (sender : Ipv4Address) (mtu : UInt16) :
    (translator.notifyIpv4 surroundings packet sender mtu).translator =
      { translator with
        needFragLimiter := (translator.needFragLimiter.acquire surroundings.now).2 } := by
  simp only [notifyIpv4]
  split
  next => split <;> rfl
  next => rfl

theorem translator_notifyIpv6 (packet : Bytes) (sender : Ipv6Address) (mtu : UInt32) :
    (translator.notifyIpv6 surroundings packet sender mtu).translator =
      { translator with
        tooBigLimiter := (translator.tooBigLimiter.acquire surroundings.now).2 } := by
  simp only [notifyIpv6]
  split
  next => split <;> rfl
  next => rfl

/-- What is logged does not hang on the packet that a notice is about. -/
theorem log_notifyIpv6 (packet other : Bytes) (sender : Ipv6Address) (mtu : UInt32) :
    (translator.notifyIpv6 surroundings packet sender mtu).log =
      (translator.notifyIpv6 surroundings other sender mtu).log := by
  simp only [notifyIpv6]
  split
  next => split <;> rfl
  next => rfl

/-! ## Carrying plans out -/

/-- A limiter is asked exactly for a packet that has to be cut. -/
theorem translator_carryOut_toIpv6 (sender : Ipv4Address) (declared : Bytes)
    (crossing : FourToSix) :
    (translator.carryOut surroundings (.toIpv6 sender declared crossing)).translator =
      if crossing.isSplit (translator.pathMtu.lookup (.v6 crossing.destination)) then
        { translator with
          needFragLimiter := (translator.needFragLimiter.acquire surroundings.now).2 }
      else translator := by
  simp only [carryOut]
  split
  next => exact translator.translator_notifyIpv4 surroundings _ _ _
  next => rfl

/-- A limiter is asked exactly for a packet that has to be cut. -/
theorem translator_carryOut_toIpv4 (sender : Ipv6Address) (arrived : Bytes)
    (crossing : SixToFour) :
    (translator.carryOut surroundings (.toIpv4 sender arrived crossing)).translator =
      if crossing.isSplit (translator.pathMtu.lookup (.v4 crossing.destination)) then
        { translator with
          tooBigLimiter := (translator.tooBigLimiter.acquire surroundings.now).2 }
      else translator := by
  simp only [carryOut]
  split
  next => exact translator.translator_notifyIpv6 surroundings _ _ _
  next => rfl

/-- The notices about a packet that goes to IPv6. -/
def noticesIpv4 (sender : Ipv4Address) (declared : Bytes) (crossing : FourToSix) :
    List OutboundPacket :=
  let mtu := translator.pathMtu.lookup (.v6 crossing.destination)
  if crossing.isSplit mtu then
    (translator.notifyIpv4 surroundings declared sender (FourToSix.advertisedMtu mtu)).packets
  else []

/-- The notices about a packet that goes to IPv4. -/
def noticesIpv6 (sender : Ipv6Address) (arrived : Bytes) (crossing : SixToFour) :
    List OutboundPacket :=
  let mtu := translator.pathMtu.lookup (.v4 crossing.destination)
  if crossing.isSplit mtu then
    (translator.notifyIpv6 surroundings arrived sender (SixToFour.advertisedMtu mtu)).packets
  else []

/-- A notice is sent if the packet has to be cut, the limiter grants it and there is an address to
send it from. That address is the same whatever packet the notice is about. -/
theorem exists_noticesIpv4 (sender : Ipv4Address) (crossing : FourToSix) :
    ∃ source, ∀ declared, translator.noticesIpv4 surroundings sender declared crossing =
      if crossing.isSplit (translator.pathMtu.lookup (.v6 crossing.destination)) &&
          ((translator.needFragLimiter.acquire surroundings.now).1 &&
            surroundings.answers (.v4 sender)) then
        [Icmp.fragmentationNeededNotice declared source sender
          (FourToSix.advertisedMtu (translator.pathMtu.lookup (.v6 crossing.destination)))]
      else [] := by
  obtain ⟨source, sent⟩ := translator.packets_notifyIpv4 surroundings sender
  refine ⟨source, fun declared => ?_⟩
  simp only [noticesIpv4, sent]
  cases crossing.isSplit (translator.pathMtu.lookup (.v6 crossing.destination)) <;> rfl

/-- A notice is sent if the packet has to be cut, the limiter grants it and there is an address to
send it from. That address is the same whatever packet the notice is about. -/
theorem exists_noticesIpv6 (sender : Ipv6Address) (crossing : SixToFour) :
    ∃ source, ∀ arrived, translator.noticesIpv6 surroundings sender arrived crossing =
      if crossing.isSplit (translator.pathMtu.lookup (.v4 crossing.destination)) &&
          ((translator.tooBigLimiter.acquire surroundings.now).1 &&
            surroundings.answers (.v6 sender)) then
        [Icmp.packetTooBigNotice arrived source sender
          (SixToFour.advertisedMtu (translator.pathMtu.lookup (.v4 crossing.destination)))]
      else [] := by
  obtain ⟨source, sent⟩ := translator.packets_notifyIpv6 surroundings sender
  refine ⟨source, fun arrived => ?_⟩
  simp only [noticesIpv6, sent]
  cases crossing.isSplit (translator.pathMtu.lookup (.v4 crossing.destination)) <;> rfl

/-- What holds of every notice that could be sent holds of the one that is. -/
theorem forall_noticesIpv4 {property : OutboundPacket → Prop} {sender : Ipv4Address}
    {declared : Bytes}
    (each : ∀ source mtu, property (Icmp.fragmentationNeededNotice declared source sender mtu))
    (crossing : FourToSix) :
    ∀ notice ∈ translator.noticesIpv4 surroundings sender declared crossing,
      property notice := by
  obtain ⟨source, notices⟩ := translator.exists_noticesIpv4 surroundings sender crossing
  intro notice member
  rw [notices] at member
  split at member
  next =>
    rw [List.mem_singleton.mp member]
    exact each _ _
  next => cases member

/-- What holds of every notice that could be sent holds of the one that is. -/
theorem forall_noticesIpv6 {property : OutboundPacket → Prop} {sender : Ipv6Address}
    {arrived : Bytes}
    (each : ∀ source mtu, property (Icmp.packetTooBigNotice arrived source sender mtu))
    (crossing : SixToFour) :
    ∀ notice ∈ translator.noticesIpv6 surroundings sender arrived crossing,
      property notice := by
  obtain ⟨source, notices⟩ := translator.exists_noticesIpv6 surroundings sender crossing
  intro notice member
  rw [notices] at member
  split at member
  next =>
    rw [List.mem_singleton.mp member]
    exact each _ _
  next => cases member

/-- Notices stand in front of the packets that carry the payload on. -/
theorem packets_carryOut_toIpv6 (sender : Ipv4Address) (declared : Bytes)
    (crossing : FourToSix) :
    (translator.carryOut surroundings (.toIpv6 sender declared crossing)).packets =
      translator.noticesIpv4 surroundings sender declared crossing ++
        crossing.packets (translator.pathMtu.lookup (.v6 crossing.destination))
          surroundings.drawn := by
  simp only [carryOut, noticesIpv4]
  split <;> rfl

/-- Notices stand in front of the packets that carry the payload on. -/
theorem packets_carryOut_toIpv4 (sender : Ipv6Address) (arrived : Bytes)
    (crossing : SixToFour) :
    (translator.carryOut surroundings (.toIpv4 sender arrived crossing)).packets =
      translator.noticesIpv6 surroundings sender arrived crossing ++
        crossing.packets (translator.pathMtu.lookup (.v4 crossing.destination))
          surroundings.drawn := by
  simp only [carryOut, noticesIpv6]
  split <;> rfl

/-- The notices about a packet with a plan. -/
def noticesOf : Plan → List OutboundPacket
  | .toIpv6 sender declared crossing =>
    translator.noticesIpv4 surroundings sender declared crossing
  | .toIpv4 sender arrived crossing =>
    translator.noticesIpv6 surroundings sender arrived crossing
  | .absorb _ | .absorbUnquoted | .withinIpv6 _ => []

/-- What is sent for a packet are the notices about it and then the packets that carry it on. -/
theorem packets_carryOut (plan : Plan) :
    (translator.carryOut surroundings plan).packets =
      translator.noticesOf surroundings plan ++
        plan.carried translator.pathMtu surroundings.drawn := by
  cases plan with
  | absorb report => cases report <;> rfl
  | absorbUnquoted => rfl
  | toIpv6 sender declared crossing => exact packets_carryOut_toIpv6 ..
  | toIpv4 sender arrived crossing => exact packets_carryOut_toIpv4 ..
  | withinIpv6 packet => rfl

/-- What is logged does not hang on the packet that a notice is about. -/
theorem log_carryOut_toIpv4 (sender : Ipv6Address) (arrived other : Bytes)
    (crossing : SixToFour) :
    (translator.carryOut surroundings (.toIpv4 sender arrived crossing)).log =
      (translator.carryOut surroundings (.toIpv4 sender other crossing)).log := by
  simp only [carryOut]
  split
  next => exact translator.log_notifyIpv6 surroundings arrived other sender _
  next => rfl

/-- Packets with one plan are treated alike. -/
theorem step_congr {translator : Translator} {surroundings : Surroundings}
    {family other : Family} {packet twin : Bytes}
    (same : Plan.ofPacket translator.table family packet =
      Plan.ofPacket translator.table other twin) :
    translator.step surroundings family packet = translator.step surroundings other twin := by
  unfold step
  rw [same]

/-- An accepted packet has a plan, which is carried out. -/
theorem exists_plan_of_accepted {translator : Translator} {surroundings : Surroundings}
    {family : Family} {packet : Bytes} {packets : List OutboundPacket}
    (accepted : (translator.step surroundings family packet).result = .ok packets) :
    ∃ plan, Plan.ofPacket translator.table family packet = .ok plan ∧
      packets = (translator.carryOut surroundings plan).packets ∧
      (translator.step surroundings family packet).translator =
        (translator.carryOut surroundings plan).translator := by
  unfold step at accepted ⊢
  split at accepted
  next => cases accepted
  next plan ok =>
    cases accepted
    exact ⟨plan, ok, rfl, rfl⟩

/-! ## What a plan changes -/

/-- What carrying out a plan makes of a translator: nothing else, the same with a report entered, or
the same with one more packet counted by the limiter of its side. -/
inductive Changes (translator : Translator) (surroundings : Surroundings) :
    Plan → Translator → Prop where
  | nothing {plan : Plan} : Changes translator surroundings plan translator
  | report (report : Icmp.Report) :
      Changes translator surroundings (.absorb (some report))
        { translator with pathMtu := report.enter translator.pathMtu surroundings.now }
  | toIpv6 (sender : Ipv4Address) (declared : Bytes) {crossing : FourToSix}
      (split : crossing.isSplit (translator.pathMtu.lookup (.v6 crossing.destination)) = true) :
      Changes translator surroundings (.toIpv6 sender declared crossing)
        { translator with
          needFragLimiter := (translator.needFragLimiter.acquire surroundings.now).2 }
  | toIpv4 (sender : Ipv6Address) (arrived : Bytes) {crossing : SixToFour}
      (split : crossing.isSplit (translator.pathMtu.lookup (.v4 crossing.destination)) = true) :
      Changes translator surroundings (.toIpv4 sender arrived crossing)
        { translator with
          tooBigLimiter := (translator.tooBigLimiter.acquire surroundings.now).2 }

/-- Carrying out a plan changes at most one part of the translator. -/
theorem changes_carryOut (plan : Plan) :
    translator.Changes surroundings plan (translator.carryOut surroundings plan).translator := by
  cases plan with
  | absorb report =>
      cases report with
      | none => exact .nothing
      | some report => exact .report report
  | absorbUnquoted => exact .nothing
  | toIpv6 sender declared crossing =>
      rw [translator_carryOut_toIpv6]
      split
      next split => exact .toIpv6 sender declared split
      next => exact .nothing
  | toIpv4 sender arrived crossing =>
      rw [translator_carryOut_toIpv4]
      split
      next split => exact .toIpv4 sender arrived split
      next => exact .nothing
  | withinIpv6 packet => exact .nothing

/-- A packet is dropped and changes nothing, or its plan is carried out. -/
theorem step_cases (family : Family) (packet : Bytes) :
    (∃ reason, (translator.step surroundings family packet).result = .error reason ∧
        (translator.step surroundings family packet).translator = translator) ∨
      ∃ plan, Plan.ofPacket translator.table family packet = .ok plan ∧
        (translator.step surroundings family packet).result =
          .ok (translator.carryOut surroundings plan).packets ∧
        translator.Changes surroundings plan
          (translator.step surroundings family packet).translator := by
  unfold step
  cases planned : Plan.ofPacket translator.table family packet with
  | error reason => exact .inl ⟨reason, rfl, rfl⟩
  | ok plan => exact .inr ⟨plan, rfl, rfl, translator.changes_carryOut surroundings plan⟩

namespace Changes

variable {translator next : Translator} {surroundings : Surroundings} {plan : Plan}

theorem table (changes : translator.Changes surroundings plan next) :
    next.table = translator.table := by
  cases changes <;> rfl

/-- Only a report changes the cache. -/
theorem pathMtu (changes : translator.Changes surroundings plan next)
    (changed : next.pathMtu ≠ translator.pathMtu) : ∃ report, plan = .absorb (some report) := by
  cases changes with
  | nothing => exact absurd rfl changed
  | report report => exact ⟨report, rfl⟩
  | toIpv6 sender declared split => exact absurd rfl changed
  | toIpv4 sender arrived split => exact absurd rfl changed

/-- Only a packet that is cut on its way to IPv6 changes the limiter for senders over IPv4. -/
theorem needFrag (changes : translator.Changes surroundings plan next)
    (changed : next.needFragLimiter ≠ translator.needFragLimiter) :
    ∃ sender declared crossing, plan = .toIpv6 sender declared crossing ∧
      crossing.isSplit (translator.pathMtu.lookup (.v6 crossing.destination)) = true := by
  cases changes with
  | nothing => exact absurd rfl changed
  | report report => exact absurd rfl changed
  | toIpv6 sender declared split => exact ⟨sender, declared, _, rfl, split⟩
  | toIpv4 sender arrived split => exact absurd rfl changed

/-- Only a packet that is cut on its way to IPv4 changes the limiter for senders over IPv6. -/
theorem tooBig (changes : translator.Changes surroundings plan next)
    (changed : next.tooBigLimiter ≠ translator.tooBigLimiter) :
    ∃ sender arrived crossing, plan = .toIpv4 sender arrived crossing ∧
      crossing.isSplit (translator.pathMtu.lookup (.v4 crossing.destination)) = true := by
  cases changes with
  | nothing => exact absurd rfl changed
  | report report => exact absurd rfl changed
  | toIpv6 sender declared split => exact absurd rfl changed
  | toIpv4 sender arrived split => exact ⟨sender, arrived, _, rfl, split⟩

end Changes

end Translator

end FamilyGateway
