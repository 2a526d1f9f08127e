import FamilyGateway.Proofs.Translator.Notices

/-!
# What a packet does to the limiters

A packet meets a translator (`Translator.Encounter`). Of their encounter it is known what is sent
for the packet, which of it are notices, and whether the packet is cut.

For the senders of a family there is one limiter. A packet of the family that is cut asks it
for a slot, and every other packet leaves it alone (`Translator.Encounter.asks_or_leaves`). So what
happens to packets of one family is nothing to the limiter for the other.
-/

set_option autoImplicit false

namespace FamilyGateway

namespace Translator

/-! ## Limiters -/

/-- The limiter for notices to senders of a family. -/
def limiter (translator : Translator) : Family → RateLimit.Limiter
  | .inet => translator.needFragLimiter
  | .inet6 => translator.tooBigLimiter

theorem limiter_acquire (translator : Translator) (now : Instant) (family : Family) :
    (translator.acquire now family).2.limiter family =
      ((translator.limiter family).acquire now).2 := by
  cases family <;> rfl

theorem granted_acquire (translator : Translator) (now : Instant) (family : Family) :
    (translator.acquire now family).1 = ((translator.limiter family).acquire now).1 := by
  cases family <;> rfl

/-- Asking for a notice to senders of one family leaves the limiter for the other alone. -/
theorem limiter_acquire_of_ne (translator : Translator) (now : Instant) {family other : Family}
    (differ : other ≠ family) :
    (translator.acquire now family).2.limiter other = translator.limiter other := by
  cases family <;> cases other
  case inet.inet => exact absurd rfl differ
  case inet.inet6 => rfl
  case inet6.inet => rfl
  case inet6.inet6 => exact absurd rfl differ

/-! ## Encounters -/

/-- A packet that is treated, and the translator that it meets. -/
structure Encounter where
  translator : Translator
  surroundings : Surroundings
  family : Family
  packet : Bytes

namespace Encounter

variable (encounter : Encounter) (family : Family)

/-- When the packet is treated. -/
def now : Instant := encounter.surroundings.now

/-- What treating the packet leads to. -/
def step : Step :=
  encounter.translator.step encounter.surroundings encounter.family encounter.packet

/-- What is sent for the packet. -/
def sent : List OutboundPacket := encounter.step.result.toOption.getD []

/-- The notices to senders of a family among what is sent. -/
def notices : List OutboundPacket :=
  (encounter.sent.filter OutboundPacket.isNotice).filter fun notice => notice.family = family

/-- The packet is one of a family, and goes on in several pieces on its way to the other. -/
def IsCut : Prop :=
  Splits encounter.translator.table encounter.family encounter.packet encounter.sent
    (Way.across family)

/-- The packet is cut and takes a slot of the limiter for senders of its family. -/
def TakesSlot : Prop :=
  encounter.IsCut family ∧
    ((encounter.translator.limiter family).acquire encounter.now).1 = true

/-- Of the packets before this one as many as the limit allows took a slot less than a window's
length ago. -/
def FindsSpent (window limit : Nat) (earlier : List Encounter) : Prop :=
  ∃ slots : List Encounter, slots.Sublist earlier ∧ limit ≤ slots.length ∧ ∀ slot ∈ slots,
    slot.TakesSlot family ∧ slot.now ≤ encounter.now ∧
      encounter.now < slot.now + window

/-- There is an address of the right family from which to write to the sender of the packet. -/
def IsAnswered : Prop :=
  ∃ view, PacketView.read? encounter.family encounter.packet = some view ∧
    encounter.surroundings.answers view.endpoints.source = true

/-- The packet asks the limiter for a slot. It is announced if it gets one and there is an address
from which to write to its sender. -/
structure Asks : Prop where
  cut : encounter.IsCut family
  next : encounter.step.translator.limiter family =
    ((encounter.translator.limiter family).acquire encounter.now).2
  atMostOne : (encounter.notices family).length ≤ 1
  refused : ((encounter.translator.limiter family).acquire encounter.now).1 = false →
    encounter.notices family = []
  granted : ((encounter.translator.limiter family).acquire encounter.now).1 = true →
    encounter.IsAnswered → encounter.notices family ≠ []

/-- The packet leaves the limiter alone. -/
structure Leaves : Prop where
  whole : ¬ encounter.IsCut family
  next : encounter.step.translator.limiter family = encounter.translator.limiter family
  silent : encounter.notices family = []

variable {encounter family}

/-- Only a packet of a family is cut on its way to the other one. -/
theorem IsCut.family_eq (cut : encounter.IsCut family) : encounter.family = family := by
  obtain ⟨view, after, read, leads, _⟩ := cut
  rw [← (PacketView.families read).1, leads.origin.1, Way.origin_across]

/-- A packet for which at most one is sent, and no notice, leaves a limiter alone that is as it
was. -/
theorem Leaves.of_single (single : encounter.sent.length ≤ 1)
    (silent : encounter.notices family = [])
    (next : encounter.step.translator.limiter family = encounter.translator.limiter family) :
    encounter.Leaves family where
  whole := by
    rintro ⟨_, _, _, _, several⟩
    exact Nat.not_lt_of_le (Nat.le_trans (List.length_filter_le _ _) single) several
  next := next
  silent := silent

/-! ## What a packet does to a limiter -/

/-- The packet takes the way to the other family, is cut above some length, and what is sent for it
are notices and the packets that carry it on. -/
structure Crosses (encounter : Encounter) (view : PacketView) (after : Endpoints)
    (notices carried : List OutboundPacket) (limit size : Nat) : Prop where
  read : PacketView.read? encounter.family encounter.packet = some view
  leads : encounter.translator.table.Leads (Way.across encounter.family) view.endpoints after
  sent : encounter.sent = notices ++ carried
  announces : Announces encounter.family view notices carried
  arrive : ∀ output ∈ carried, output.family = (Way.across encounter.family).target
  cuts : encounter.translator.CutsAbove encounter.surroundings encounter.family view
    encounter.step.translator notices carried limit size

namespace Crosses

variable {view : PacketView} {after : Endpoints} {notices carried : List OutboundPacket}
  {limit size : Nat}

theorem filter_sent (crosses : encounter.Crosses view after notices carried limit size) :
    encounter.sent.filter OutboundPacket.isNotice = notices := by
  rw [crosses.sent, crosses.announces.filter_isNotice]

/-- All notices are to senders of the family of the packet. -/
theorem notices_eq (crosses : encounter.Crosses view after notices carried limit size) :
    encounter.notices encounter.family = notices := by
  rw [Encounter.notices, crosses.filter_sent]
  refine List.filter_eq_self.mpr ?_
  intro notice member
  exact decide_eq_true (crosses.announces.announced notice member).family

theorem notices_eq_nil (crosses : encounter.Crosses view after notices carried limit size)
    (other : encounter.family ≠ family) : encounter.notices family = [] := by
  rw [Encounter.notices, crosses.filter_sent]
  refine List.filter_eq_nil_iff.mpr ?_
  intro notice member same
  exact other
    ((crosses.announces.announced notice member).family.symm.trans (of_decide_eq_true same))

/-- The pieces are the packets that carry the payload on. -/
theorem isCut_iff (crosses : encounter.Crosses view after notices carried limit size) :
    encounter.IsCut encounter.family ↔ limit < view.totalLength := by
  have pieces : (encounter.sent.filter fun output =>
      output.family = (Way.across encounter.family).target) = carried := by
    rw [crosses.sent, List.filter_append, List.filter_eq_nil_iff.mpr, List.filter_eq_self.mpr,
      List.nil_append]
    · intro output member
      exact decide_eq_true (crosses.arrive output member)
    · intro notice member across
      exact Way.target_across_ne encounter.family ((of_decide_eq_true across).symm.trans
        (crosses.announces.announced notice member).family)
  rw [← crosses.cuts.cut_iff, IsCut, Splits, pieces]
  constructor
  · rintro ⟨_, _, _, _, several⟩
    exact several
  · intro several
    exact ⟨view, after, crosses.read, crosses.leads, several⟩

/-- A packet that is cut asks the limiter for its family. -/
theorem asks (crosses : encounter.Crosses view after notices carried limit size)
    (long : limit < view.totalLength) : encounter.Asks encounter.family := by
  obtain ⟨next, advertised⟩ := crosses.cuts.announced long
  rw [granted_acquire] at advertised
  change _ = if ((encounter.translator.limiter encounter.family).acquire encounter.now).1 && _
    then _ else _ at advertised
  refine ⟨crosses.isCut_iff.mpr long, ?_, ?_, ?_, ?_⟩
  · rw [next, limiter_acquire]
    rfl
  · rw [crosses.notices_eq]
    exact crosses.announces.atMostOne
  · intro refused
    rw [refused, Bool.false_and, if_neg Bool.false_ne_true] at advertised
    rw [crosses.notices_eq]
    exact List.map_eq_nil_iff.mp advertised
  · rintro granted ⟨other, read, answers⟩ none
    cases crosses.read.symm.trans read
    rw [crosses.notices_eq] at none
    rw [granted, answers, Bool.and_self, if_pos rfl, none] at advertised
    cases advertised

/-- A packet leaves the limiter for its family alone if it is not cut, and the other one anyway. -/
theorem asks_or_leaves (crosses : encounter.Crosses view after notices carried limit size)
    (family : Family) : encounter.Asks family ∨ encounter.Leaves family := by
  by_cases own : encounter.family = family
  · subst own
    by_cases long : limit < view.totalLength
    · exact .inl (crosses.asks long)
    · obtain ⟨_, none, same⟩ := crosses.cuts.whole (Nat.le_of_not_lt long)
      exact .inr ⟨fun cut => long (crosses.isCut_iff.mp cut), by rw [same],
        crosses.notices_eq.trans none⟩
  · refine .inr ⟨fun cut => own cut.family_eq, ?_, crosses.notices_eq_nil own⟩
    by_cases long : limit < view.totalLength
    · rw [(crosses.cuts.announced long).1]
      exact limiter_acquire_of_ne _ _ (Ne.symm own)
    · rw [(crosses.cuts.whole (Nat.le_of_not_lt long)).2.2]

end Crosses

variable {translator : Translator} {surroundings : Surroundings} {packet : Bytes} {plan : Plan}

/-- What an encounter leads to is what carrying out the plan leads to. -/
theorem step_of_plan (surroundings : Surroundings)
    (planned : Plan.ofPacket translator.table family packet = .ok plan) :
    (⟨translator, surroundings, family, packet⟩ : Encounter).step.translator =
        (translator.carryOut surroundings plan).translator ∧
      (⟨translator, surroundings, family, packet⟩ : Encounter).sent =
        translator.noticesOf surroundings plan ++
          plan.carried translator.pathMtu surroundings.drawn := by
  rw [← packets_carryOut, sent, step, Translator.step, planned]
  exact ⟨rfl, rfl⟩

/-- A packet about which there are no notices, and for which at most one is sent, leaves alone a
limiter that carrying out its plan does. -/
theorem leaves_of_plan (planned : Plan.ofPacket translator.table family packet = .ok plan)
    (silent : translator.noticesOf surroundings plan = [])
    (single : (plan.carried translator.pathMtu surroundings.drawn).length ≤ 1) {other : Family}
    (same : (translator.carryOut surroundings plan).translator.limiter other =
      translator.limiter other) :
    (⟨translator, surroundings, family, packet⟩ : Encounter).Leaves other := by
  obtain ⟨view, read⟩ := Plan.exists_view planned
  obtain ⟨next, sent⟩ := step_of_plan surroundings planned
  refine .of_single ?_ ?_ (by rw [next, same])
  · rw [sent, silent]
    exact single
  · rw [notices, sent, ← packets_carryOut, filter_isNotice read planned, silent]
    rfl

/-- **A packet asks the limiter for senders of a family exactly if it is one of the family that is
cut**, and what is sent for any other packet are no notices to them. -/
theorem asks_or_leaves (encounter : Encounter) (reached : encounter.translator.Reachable)
    (family : Family) :
    encounter.Asks family ∨ encounter.Leaves family := by
  obtain ⟨translator, surroundings, arrived, packet⟩ := encounter
  cases planned : Plan.ofPacket translator.table arrived packet with
  | error reason =>
      have dropped : (⟨translator, surroundings, arrived, packet⟩ : Encounter).step =
          ⟨translator, .error reason, []⟩ := by
        rw [step, Translator.step, planned]
      refine .inr (.of_single ?_ ?_ ?_)
      · rw [sent, dropped]
        exact Nat.zero_le _
      · rw [notices, sent, dropped]
        rfl
      · rw [dropped]
  | ok plan =>
      obtain ⟨view, read⟩ := Plan.exists_view planned
      obtain ⟨next, sent⟩ := step_of_plan surroundings planned
      have suits := Plan.suits read planned
      have announces : Announces arrived view (translator.noticesOf surroundings plan)
          (plan.carried translator.pathMtu surroundings.drawn) := announces_of_plan read planned
      cases Plan.made planned with
      | @absorbIpv4 _ _ report =>
          refine .inr (leaves_of_plan planned rfl (Nat.zero_le _) ?_)
          cases report <;> cases family <;> rfl
      | absorbUnquoted => exact .inr (leaves_of_plan planned rfl (Nat.zero_le _) rfl)
      | absorbIpv6 =>
          refine .inr (leaves_of_plan planned rfl (Nat.zero_le _) ?_)
          cases family <;> rfl
      | @toIpv6 _ _ _ crossing readable named =>
          cases read.symm.trans (PacketView.read?_of_ipv4 readable named)
          have sends : translator.Sends surroundings packet _ _ _ _ _ _ :=
            .toIpv6 readable rfl rfl suits
          rw [← next] at sends
          exact Crosses.asks_or_leaves ⟨read, sends.leads, sent, announces,
            crossing.family_packets _ _, cutsAbove_fourToSix sends reached⟩ family
      | @toIpv4 _ _ crossing readable =>
          cases read.symm.trans (PacketView.read?_of_ipv6 readable)
          have sends : translator.Sends surroundings packet _ _ _ _ _ _ :=
            .toIpv4 readable rfl suits
          rw [← next] at sends
          exact Crosses.asks_or_leaves ⟨read, sends.leads, sent, announces,
            crossing.family_packets _ _, cutsAbove_sixToFour sends reached⟩ family
      | withinIpv6 => exact .inr (leaves_of_plan planned rfl (Nat.le_refl 1) rfl)

end Encounter

end Translator

end FamilyGateway
