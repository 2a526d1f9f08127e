import FamilyGateway.Proofs.Translator.PathLimit

/-!
# Path MTU discovery settles

A sender learns from a notice how long its packets may be. That is useful only if packets
up to that length are not cut, and if it were less than the longest such length, packets
would be shorter than they have to be. The length above which a packet is cut is computed
from the room for payload, the size that is advertised from the headers that are added or
removed, and on both ways the two agree (`Translator.cutsAbove_fourToSix`,
`Translator.cutsAbove_sixToFour`).

Hence a sender that keeps to the size in the notice is neither cut nor told again as long
as the path MTU stays what it is (`Translator.discovery_settles`). On the way to IPv4 this
needs a path MTU of 1260 or more, since no IPv6 sender can be asked for less than 1280
bytes.
-/

set_option autoImplicit false

namespace FamilyGateway

open OutboundPacket (view?)

/-! ## How many packets are sent -/

namespace Piece

theorem cut_ne_nil (room start : Nat) (payload : Bytes) : cut room start payload ≠ [] := by
  unfold cut
  split <;> exact List.cons_ne_nil _ _

/-- There are several pieces if the payload is longer than one. -/
theorem one_lt_length_cut {room : Nat} {payload : Bytes} (start : Nat)
    (long : size room < payload.length) : 1 < (cut room start payload).length := by
  have rest := List.length_pos_iff.mpr
    (cut_ne_nil room (start + size room) (payload.drop (size room)))
  unfold cut
  rw [if_neg (Nat.not_le_of_lt long), List.length_cons]
  omega

end Piece

namespace FourToSix

variable {crossing : FourToSix} {mtu : UInt16}

theorem one_lt_length_packets (floored : (PathMtu.floor .inet6).toNat ≤ mtu.toNat)
    (split : crossing.isSplit mtu = true) (drawn : UInt32) :
    1 < (crossing.packets mtu drawn).length := by
  have floor : 1280 ≤ mtu.toNat := floored
  have space : room mtu = mtu.toNat - 48 := rfl
  have fits := Piece.size_le (show 8 ≤ room mtu by omega)
  unfold packets
  rw [if_pos split, List.length_map]
  exact Piece.one_lt_length_cut 0 (Nat.lt_of_le_of_lt fits (of_decide_eq_true split))

theorem length_packets_eq_one (whole : crossing.isSplit mtu = false) (drawn : UInt32) :
    (crossing.packets mtu drawn).length = 1 := by
  unfold packets
  rw [if_neg (Bool.eq_false_iff.mp whole)]
  split <;> rfl

theorem toNat_advertisedMtu (mtu : UInt16) : (advertisedMtu mtu).toNat = mtu.toNat - 28 := by
  have bound := mtu.toNat_lt
  show (UInt16.ofNat (mtu.toNat - 28)).toNat = _
  rw [UInt16.toNat_ofNat', Nat.mod_eq_of_lt (by omega)]

end FourToSix

namespace SixToFour

variable {crossing : SixToFour} {mtu : UInt16}

theorem one_lt_length_packets (floored : (PathMtu.floor .inet).toNat ≤ mtu.toNat)
    (split : crossing.isSplit mtu = true) (drawn : UInt32) :
    1 < (crossing.packets mtu drawn).length := by
  have floor : 68 ≤ mtu.toNat := floored
  have space : room mtu = mtu.toNat - 20 := rfl
  have fits := Piece.size_le (show 8 ≤ room mtu by omega)
  have long : mtu.toNat < 20 + crossing.payload.length := of_decide_eq_true split
  unfold packets
  rw [if_pos split, List.length_map]
  exact Piece.one_lt_length_cut 0 (by omega)

theorem length_packets_eq_one (whole : crossing.isSplit mtu = false) (drawn : UInt32) :
    (crossing.packets mtu drawn).length = 1 := by
  unfold packets
  rw [if_neg (Bool.eq_false_iff.mp whole)]
  rfl

theorem toNat_advertisedMtu (mtu : UInt16) : (advertisedMtu mtu).toNat = mtu.toNat + 20 := by
  have bound := mtu.toNat_lt
  show (mtu.toUInt32 + 20).toNat = _
  rw [UInt32.toNat_add, UInt16.toNat_toUInt32]
  exact Nat.mod_eq_of_lt (show mtu.toNat + 20 < 2 ^ 32 by omega)

end SixToFour

/-! ## When a packet is cut -/

namespace Translator

/-- Asks for a notice to a sender of a family: says whether it is granted, and what the translator
is afterwards. -/
def acquire (translator : Translator) (now : Instant) : Family → Bool × Translator
  | .inet =>
    let (granted, limiter) := translator.needFragLimiter.acquire now
    (granted, { translator with needFragLimiter := limiter })
  | .inet6 =>
    let (granted, limiter) := translator.tooBigLimiter.acquire now
    (granted, { translator with tooBigLimiter := limiter })

/-- A packet is cut exactly if it is longer than `limit`. One that is not cut is all that is sent,
and leaves the translator as it was. For one that is cut a notice is asked for, and if it is
granted and there is an address to send it from, it advertises `size` to the sender. -/
structure CutsAbove (translator : Translator) (surroundings : Surroundings) (family : Family)
    (view : PacketView) (next : Translator) (notices carried : List OutboundPacket)
    (limit size : Nat) : Prop where
  cut_iff : 1 < carried.length ↔ limit < view.totalLength
  whole : view.totalLength ≤ limit → carried.length = 1 ∧ notices = [] ∧ next = translator
  announced : limit < view.totalLength →
    next = (translator.acquire surroundings.now family).2 ∧
      notices.map OutboundPacket.advertised? =
        if (translator.acquire surroundings.now family).1 &&
            surroundings.answers view.endpoints.source then [some size]
        else []

variable {translator next : Translator} {surroundings : Surroundings} {family : Family}
  {packet : Bytes} {view : PacketView} {after : Endpoints}
  {notices carried packets : List OutboundPacket} {limit size : Nat}

theorem CutsAbove.of_split {split : Bool} (exceeds : split = decide (limit < view.totalLength))
    (several : split = true → 1 < carried.length) (single : split = false → carried.length = 1)
    (become : next =
      if split then (translator.acquire surroundings.now family).2 else translator)
    (advertise : notices.map OutboundPacket.advertised? =
      if split && ((translator.acquire surroundings.now family).1 &&
          surroundings.answers view.endpoints.source) then [some size]
      else []) :
    translator.CutsAbove surroundings family view next notices carried limit size := by
  cases split with
  | false =>
      have short : ¬ limit < view.totalLength := of_decide_eq_false exceeds.symm
      have one := single rfl
      refine ⟨⟨fun several => ?_, fun long => absurd long short⟩,
        fun _ => ⟨one, List.map_eq_nil_iff.mp advertise, become⟩, fun long => absurd long short⟩
      omega
  | true =>
      have long : limit < view.totalLength := of_decide_eq_true exceeds.symm
      exact ⟨⟨fun _ => long, fun _ => several rfl⟩,
        fun short => absurd long (Nat.not_lt_of_le short), fun _ => ⟨become, advertise⟩⟩

/-- A packet that goes to IPv6 is cut above the size that is advertised. -/
theorem cutsAbove_fourToSix
    (sends : translator.Sends surroundings packet view next .fourToSix after notices carried)
    (reached : translator.Reachable) :
    translator.CutsAbove surroundings .inet view next notices carried
      ((translator.pathMtu.lookup after.destination).toNat - 28)
      ((translator.pathMtu.lookup after.destination).toNat - 28) := by
  cases sends with
  | @toIpv6 datagram crossing declared read origin upTo suits =>
      rw [FourToSix.destination_endpoints]
      have floored := reached.floor_le_lookup (.v6 crossing.destination)
      obtain ⟨source, notices⟩ :=
        translator.exists_noticesIpv4 surroundings datagram.fields.source crossing
      have become := translator.translator_carryOut_toIpv6 surroundings datagram.fields.source
        declared crossing
      generalize translator.pathMtu.lookup (.v6 crossing.destination) = mtu
        at floored notices become ⊢
      have floor : 1280 ≤ mtu.toNat := floored
      have exceeds : crossing.isSplit mtu = decide (mtu.toNat - 28 < view.totalLength) := by
        cases suits with
        | toIpv6 _ _ leads converted =>
            have length := PacketView.length_convert leads.one_origin leads.one_target converted
            rw [PacketView.totalLength_inet leads.origin.1, ← length]
            show decide (mtu.toNat - 48 < crossing.payload.length) = _
            rw [decide_eq_decide]
            omega
      refine .of_split exceeds (fun split => FourToSix.one_lt_length_packets floored split _)
        (fun whole => FourToSix.length_packets_eq_one whole _) become ?_
      rw [notices, origin, apply_ite (List.map _), List.map_nil, List.map_singleton,
        Icmp.advertised?_fragmentationNeeded, FourToSix.toNat_advertisedMtu,
        Nat.max_eq_left (by omega)]
      rfl

/-- A packet that goes to IPv4 is cut above the size that is advertised, unless that is less than
IPv6 allows. A Fragment header is not sent on, so it is allowed on top. -/
theorem cutsAbove_sixToFour
    (sends : translator.Sends surroundings packet view next .sixToFour after notices carried)
    (reached : translator.Reachable) :
    translator.CutsAbove surroundings .inet6 view next notices carried
      ((translator.pathMtu.lookup after.destination).toNat + 20 +
        if view.identification.isSome then 8 else 0)
      (max 1280 ((translator.pathMtu.lookup after.destination).toNat + 20)) := by
  cases sends with
  | @toIpv4 datagram crossing read origin suits =>
      rw [SixToFour.destination_endpoints]
      have floored := reached.floor_le_lookup (.v4 crossing.destination)
      obtain ⟨source, notices⟩ :=
        translator.exists_noticesIpv6 surroundings datagram.fields.source crossing
      have become := translator.translator_carryOut_toIpv4 surroundings datagram.fields.source
        packet crossing
      generalize translator.pathMtu.lookup (.v4 crossing.destination) = mtu
        at floored notices become ⊢
      have exceeds : crossing.isSplit mtu = decide (mtu.toNat + 20 +
          (if view.identification.isSome then 8 else 0) < view.totalLength) := by
        cases suits with
        | toIpv4 _ _ leads converted =>
            have length := PacketView.length_convert leads.one_origin leads.one_target converted
            rw [PacketView.totalLength_inet6 leads.origin.1, ← length]
            show decide (mtu.toNat < 20 + crossing.payload.length) = _
            rw [decide_eq_decide]
            omega
      refine .of_split exceeds (fun split => SixToFour.one_lt_length_packets floored split _)
        (fun whole => SixToFour.length_packets_eq_one whole _) become ?_
      rw [notices, origin, apply_ite (List.map _), List.map_nil, List.map_singleton,
        Icmp.advertised?_packetTooBig, SixToFour.toNat_advertisedMtu, Nat.max_comm]
      rfl

/-- What is sent for a packet on its way, and above which length it is cut. Packets to IPv6 grow by
twenty-eight bytes when they are cut. Packets to IPv4 shrink by twenty, and lose a Fragment header
of eight if they have one. -/
structure Thresholds (translator : Translator) (surroundings : Surroundings) (view : PacketView)
    (next : Translator) (way : Way) (after : Endpoints)
    (notices carried : List OutboundPacket) : Prop where
  leads : translator.table.Leads way view.endpoints after
  addressed : ∀ output ∈ carried, ∃ shown, view? output = some shown ∧ shown.endpoints = after
  toIpv6 : way = .fourToSix →
    translator.CutsAbove surroundings .inet view next notices carried
      ((translator.pathMtu.lookup after.destination).toNat - 28)
      ((translator.pathMtu.lookup after.destination).toNat - 28)
  toIpv4 : way = .sixToFour →
    translator.CutsAbove surroundings .inet6 view next notices carried
      ((translator.pathMtu.lookup after.destination).toNat + 20 +
        if view.identification.isSome then 8 else 0)
      (max 1280 ((translator.pathMtu.lookup after.destination).toNat + 20))
  within : way = .sixToSix → notices = []

/-- Every packet for which something is sent is cut where it should be. -/
theorem exists_thresholds (reached : translator.Reachable)
    (read : PacketView.read? family packet = some view)
    (accepted : (translator.step surroundings family packet).result = .ok packets)
    (forwarded : view.protocol = .icmp → packets ≠ []) :
    ∃ way after notices carried, packets = notices ++ carried ∧
      translator.Thresholds surroundings view
        (translator.step surroundings family packet).translator way after notices carried := by
  obtain ⟨way, after, notices, carried, split, sends⟩ :=
    exists_sends read accepted (ne_nil_of_accepted read accepted forwarded)
  refine ⟨way, after, notices, carried, split, sends.leads,
    sends.addressed (PacketView.offset_aligned read), ?_, ?_, ?_⟩
  · rintro rfl
    exact cutsAbove_fourToSix sends reached
  · rintro rfl
    exact cutsAbove_sixToFour sends reached
  · rintro rfl
    exact sends.notices_eq_nil

/-! ## Senders that do what they are told -/

theorem CutsAbove.eq_of_advertised
    (cuts : translator.CutsAbove surroundings family view next notices carried limit size)
    {told : Nat} (advertised : some told ∈ notices.map OutboundPacket.advertised?) :
    told = size := by
  by_cases long : limit < view.totalLength
  · rw [(cuts.announced long).2] at advertised
    split at advertised
    next => exact Option.some.inj (List.mem_singleton.mp advertised)
    next => cases advertised
  · rw [(cuts.whole (Nat.le_of_not_lt long)).2.1] at advertised
    cases advertised

/-- Every packet of at most `size` bytes that takes a way to a destination passes in one piece,
without a notice and without a trace, in every translator that is reached and knows this path MTU
towards the destination. -/
def Passes (way : Way) (destination : Address) (mtu : UInt16) (size : Nat) : Prop :=
  ∀ (translator : Translator) (surroundings : Surroundings) (family : Family) (packet : Bytes)
    (view : PacketView) (after : Endpoints) (packets : List OutboundPacket),
    translator.Reachable → translator.pathMtu.lookup destination = mtu →
    PacketView.read? family packet = some view →
    translator.table.Leads way view.endpoints after → after.destination = destination →
    view.totalLength ≤ size →
    (translator.step surroundings family packet).result = .ok packets →
    (view.protocol = .icmp → packets ≠ []) →
    (translator.step surroundings family packet).translator = translator ∧
      ∃ output shown, packets = [output] ∧ view? output = some shown ∧ shown.endpoints = after

theorem passes_of_whole {way : Way} {destination : Address} {mtu : UInt16}
    (whole : ∀ {translator : Translator} {surroundings : Surroundings} {view : PacketView}
      {next : Translator} {after : Endpoints} {notices carried : List OutboundPacket},
      translator.Thresholds surroundings view next way after notices carried →
      after.destination = destination → translator.pathMtu.lookup destination = mtu →
      view.totalLength ≤ size → carried.length = 1 ∧ notices = [] ∧ next = translator) :
    Passes way destination mtu size := by
  intro translator surroundings family packet view after packets reached known read leads
    towards short accepted forwarded
  obtain ⟨_, _, notices, carried, rfl, thresholds⟩ :=
    exists_thresholds reached read accepted forwarded
  obtain ⟨rfl, rfl⟩ := leads.unique thresholds.leads
  obtain ⟨single, rfl, same⟩ := whole thresholds towards known short
  obtain ⟨output, rfl⟩ := List.length_eq_one_iff.mp single
  obtain ⟨shown, seen, endpoints⟩ :=
    thresholds.addressed output (List.mem_singleton_self output)
  exact ⟨same, output, shown, rfl, seen, endpoints⟩

theorem passes_toIpv6 (destination : Address) (mtu : UInt16) :
    Passes .fourToSix destination mtu (mtu.toNat - 28) := by
  refine passes_of_whole fun thresholds towards known short => ?_
  refine (thresholds.toIpv6 rfl).whole ?_
  rw [towards, known]
  exact short

theorem passes_toIpv4 (destination : Address) {mtu : UInt16} (enough : 1260 ≤ mtu.toNat) :
    Passes .sixToFour destination mtu (max 1280 (mtu.toNat + 20)) := by
  refine passes_of_whole fun thresholds towards known short => ?_
  refine (thresholds.toIpv4 rfl).whole ?_
  rw [towards, known]
  omega

/-- **The size in a notice is the length above which packets are cut**, raised to the least that
IPv6 allows. So a sender that keeps to it is neither cut nor told again while the path MTU stays
what it is. -/
theorem discovery_settles (reached : translator.Reachable)
    (read : PacketView.read? family packet = some view)
    (accepted : (translator.step surroundings family packet).result = .ok packets)
    (forwarded : view.protocol = .icmp → packets ≠ []) :
    declaredLength? family packet = some view.totalLength ∧
      ∃ way after notices carried, packets = notices ++ carried ∧
        translator.Thresholds surroundings view
          (translator.step surroundings family packet).translator way after notices carried ∧
        ∀ told, some told ∈ notices.map OutboundPacket.advertised? →
          (way = .sixToFour → 1260 ≤ (translator.pathMtu.lookup after.destination).toNat) →
          Passes way after.destination (translator.pathMtu.lookup after.destination) told := by
  obtain ⟨way, after, notices, carried, split, thresholds⟩ :=
    exists_thresholds reached read accepted forwarded
  refine ⟨PacketView.declaredLength?_of_read? read, way, after, notices, carried, split,
    thresholds, fun told advertised enough => ?_⟩
  cases way with
  | fourToSix =>
      rw [(thresholds.toIpv6 rfl).eq_of_advertised advertised]
      exact passes_toIpv6 _ _
  | sixToFour =>
      rw [(thresholds.toIpv4 rfl).eq_of_advertised advertised]
      exact passes_toIpv4 _ (enough rfl)
  | sixToSix =>
      rw [thresholds.within rfl] at advertised
      cases advertised

theorem discovery_settles_smallest :
    Sample.translator.Reachable ∧
      (∃ notices carried,
        (Sample.translator.step Sample.answering .inet6
          (Sample.wholePacket (List.replicate 56 0))).result = .ok (notices ++ carried) ∧
        1 < carried.length ∧ notices.map OutboundPacket.advertised? = [some 1280]) ∧
      ∃ notices carried,
        (Sample.translator.step Sample.answering .inet Sample.longPacket).result =
          .ok (notices ++ carried) ∧
        1 < carried.length ∧ notices.map OutboundPacket.advertised? = [some 1472] := by
  refine ⟨Sample.reachable, ?_, ?_⟩
  · obtain ⟨view, packets, read, plain, length, accepted, forwards⟩ := Sample.forwards_wholePacket
    obtain ⟨_, way, after, notices, carried, rfl, thresholds, _⟩ :=
      discovery_settles Sample.reachable read accepted fun _ => forwards.ne_nil
    obtain ⟨rfl, rfl⟩ := forwards.leads.unique thresholds.leads
    have origin := thresholds.leads.origin.1
    have towards : Endpoints.destination ⟨.v4 Sample.host.ipv4, .v4 Sample.remote⟩ =
        .v4 Sample.remote := rfl
    have cuts := thresholds.toIpv4 rfl
    rw [towards, Sample.lookup_remote] at cuts
    have long : (68 : UInt16).toNat + 20 + (if view.identification.isSome then 8 else 0) <
        view.totalLength := by
      rw [PacketView.totalLength_inet6 origin, plain, length]
      decide
    have told := (cuts.announced long).2
    have answered : Sample.answering.answers view.endpoints.source = true := by
      cases source : view.endpoints.source with
      | v4 address => rw [source] at origin; cases origin
      | v6 address => rfl
    rw [answered] at told
    exact ⟨notices, carried, accepted, cuts.cut_iff.mpr long, told⟩
  · obtain ⟨packets, accepted⟩ := Sample.accepted_longPacket Sample.answering
    obtain ⟨_, way, after, notices, carried, rfl, thresholds, _⟩ :=
      discovery_settles Sample.reachable Sample.read_longPacket accepted UpperProtocol.noConfusion
    obtain ⟨rfl, rfl⟩ := Sample.leads_longFragment.unique thresholds.leads
    have towards : Endpoints.destination ⟨.v6 (.embed Sample.network Sample.remote),
        .v6 Sample.host.ipv6⟩ = .v6 Sample.host.ipv6 := rfl
    have cuts := thresholds.toIpv6 rfl
    rw [towards, Sample.lookup_host] at cuts
    have long : (1500 : UInt16).toNat - 28 < Sample.longFragment.totalLength := by
      decide +kernel
    exact ⟨notices, carried, accepted, cuts.cut_iff.mpr long, (cuts.announced long).2⟩

end Translator

end FamilyGateway
