import FamilyGateway.Proofs.Translator.Notices

/-!
# Which payloads can be converted

What stands at the beginning of a datagram is converted on its way, and conversion can fail.
A segment has to reach as far as its checksum, unless it is empty
(`Segment.exists_readdress_iff`), and a message that changes its family has to be an echo message
with a whole header (`Icmp.exists_toIpv6_iff`, `Icmp.exists_toIpv4_iff`). The one other payload
that is refused is a UDP segment from IPv4 without a checksum of which more fragments follow,
because the missing checksum would have to cover them.

Together these are the payloads that can be converted (`PacketView.exists_convert_iff`). What
does not stand at the beginning of a datagram is never refused.
-/

set_option autoImplicit false

namespace FamilyGateway

/-- What is refused has no result. -/
theorem not_exists_error_eq_ok {ε α : Type} {error : ε} :
    ¬ ∃ result, (.error error : Except ε α) = .ok result := by
  rintro ⟨_, ok⟩
  cases ok

/-! ## Messages -/

theorem Ipv4Address.exists_read?_iff {bytes : Bytes} :
    (∃ found, read? bytes = some found) ↔ 4 ≤ bytes.length := by
  unfold read?
  split
  next =>
    refine iff_of_true ⟨_, rfl⟩ ?_
    simp only [List.length_cons]
    omega
  next other =>
    refine iff_of_false nofun fun long => ?_
    match bytes, long with
    | a :: b :: c :: d :: rest, _ => exact other a b c d rest rfl

theorem Ipv6Address.exists_read?_iff {bytes : Bytes} :
    (∃ found, read? bytes = some found) ↔ 16 ≤ bytes.length := by
  unfold read?
  split
  next b1 b2 b3 b4 b5 b6 b7 b8 b9 b10 b11 b12 rest =>
    have low : (∃ found, Ipv4Address.read? rest = some found) ↔ 4 ≤ rest.length :=
      Ipv4Address.exists_read?_iff
    simp only [List.length_cons]
    cases found : Ipv4Address.read? rest with
    | none =>
        refine iff_of_false nofun fun long => ?_
        obtain ⟨address, same⟩ := low.mpr (by omega)
        cases found.symm.trans same
    | some address =>
        have long := low.mp ⟨address, found⟩
        exact iff_of_true ⟨_, rfl⟩ (by omega)
  next other =>
    refine iff_of_false nofun fun long => ?_
    match bytes, long with
    | b1 :: b2 :: b3 :: b4 :: b5 :: b6 :: b7 :: b8 :: b9 :: b10 :: b11 :: b12 :: rest, _ =>
        exact other b1 b2 b3 b4 b5 b6 b7 b8 b9 b10 b11 b12 rest rfl

/-- A message has a header of eight bytes. -/
theorem IcmpMessage.exists_read_iff {bytes : Bytes} :
    (∃ message, read bytes = .ok message) ↔ 8 ≤ bytes.length := by
  unfold read
  split
  next =>
    refine iff_of_true ⟨_, rfl⟩ ?_
    simp only [List.length_cons]
    omega
  next other =>
    refine iff_of_false nofun fun long => ?_
    match bytes, long with
    | type :: code :: c1 :: c2 :: p1 :: p2 :: p3 :: p4 :: data, _ =>
        exact other type code c1 c2 p1 p2 p3 p4 data rfl

/-- The first byte of a message is its type. -/
theorem IcmpMessage.head?_of_read {bytes : Bytes} {message : IcmpMessage}
    (ok : read bytes = .ok message) : bytes.head? = some message.type := by
  rw [eq_encode_of_read ok]
  rfl

namespace Icmp

theorem exists_typeInIpv6?_iff {type : UInt8} :
    (∃ converted, typeInIpv6? type = some converted) ↔ type = echoRequest ∨ type = echoReply := by
  unfold typeInIpv6?
  split
  next request => exact iff_of_true ⟨_, rfl⟩ (.inl request)
  next notRequest =>
    split
    next reply => exact iff_of_true ⟨_, rfl⟩ (.inr reply)
    next notReply => exact iff_of_false nofun fun echo => echo.elim notRequest notReply

theorem exists_typeInIpv4?_iff {type : UInt8} :
    (∃ converted, typeInIpv4? type = some converted) ↔
      type = echoRequestV6 ∨ type = echoReplyV6 := by
  unfold typeInIpv4?
  split
  next request => exact iff_of_true ⟨_, rfl⟩ (.inl request)
  next notRequest =>
    split
    next reply => exact iff_of_true ⟨_, rfl⟩ (.inr reply)
    next notReply => exact iff_of_false nofun fun echo => echo.elim notRequest notReply

/-- Exactly the echo messages with a whole header cross to IPv6. -/
theorem exists_toIpv6_iff {pseudoSum : UInt32} {bytes : Bytes} :
    (∃ result, toIpv6 pseudoSum bytes = .ok result) ↔
      8 ≤ bytes.length ∧ (bytes.head? = some echoRequest ∨ bytes.head? = some echoReply) := by
  rw [← IcmpMessage.exists_read_iff]
  unfold toIpv6
  cases readable : IcmpMessage.read bytes with
  | error error =>
      exact iff_of_false not_exists_error_eq_ok fun echo => not_exists_error_eq_ok echo.1
  | ok message =>
      rw [IcmpMessage.head?_of_read readable, Option.some.injEq, Option.some.injEq,
        ← exists_typeInIpv6?_iff]
      simp only [bind, Except.bind]
      cases named : typeInIpv6? message.type with
      | none => exact iff_of_false nofun fun ⟨_, _, same⟩ => nomatch same
      | some type => exact iff_of_true ⟨_, rfl⟩ ⟨⟨_, rfl⟩, _, rfl⟩

/-- Exactly the echo messages with a whole header cross to IPv4. -/
theorem exists_toIpv4_iff {pseudoSum : UInt32} {bytes : Bytes} :
    (∃ result, toIpv4 pseudoSum bytes = .ok result) ↔
      8 ≤ bytes.length ∧
        (bytes.head? = some echoRequestV6 ∨ bytes.head? = some echoReplyV6) := by
  rw [← IcmpMessage.exists_read_iff]
  unfold toIpv4
  cases readable : IcmpMessage.read bytes with
  | error error =>
      exact iff_of_false not_exists_error_eq_ok fun echo => not_exists_error_eq_ok echo.1
  | ok message =>
      rw [IcmpMessage.head?_of_read readable, Option.some.injEq, Option.some.injEq,
        ← exists_typeInIpv4?_iff]
      simp only [bind, Except.bind]
      cases named : typeInIpv4? message.type with
      | none => exact iff_of_false nofun fun ⟨_, _, same⟩ => nomatch same
      | some type => exact iff_of_true ⟨_, rfl⟩ ⟨⟨_, rfl⟩, _, rfl⟩

/-- A message crosses if it can be converted under the sum of its pseudo-header. -/
theorem exists_cross_iff {convert : UInt32 → Bytes → Except IcmpError Bytes}
    {endpoints : Endpoints} {message : Bytes}
    (same : endpoints.source.family = endpoints.destination.family) :
    (∃ result, cross convert endpoints message = .ok result) ↔
      ∃ result, convert (Checksum.combine endpoints.sum
        (Checksum.trailerSum 58 (UInt32.ofNat message.length))) message = .ok result := by
  refine ⟨fun ⟨result, ok⟩ => ⟨result, cross_ok same ok⟩, fun ⟨result, ok⟩ => ⟨result, ?_⟩⟩
  unfold cross
  rw [Checksum.pseudoHeaderSum_eq same]
  simp only [UpperProtocol.number, ok]

/-- Every message that is read is advised on. -/
theorem exists_advise_iff {bytes : Bytes} :
    (∃ advice, advise bytes = .ok advice) ↔ 8 ≤ bytes.length := by
  rw [← IcmpMessage.exists_read_iff]
  unfold advise
  cases readable : IcmpMessage.read bytes with
  | error error => exact iff_of_false not_exists_error_eq_ok not_exists_error_eq_ok
  | ok message =>
      refine iff_of_true ?_ ⟨_, rfl⟩
      simp only [bind, Except.bind]
      split
      next => exact ⟨_, rfl⟩
      next =>
        split
        next => split <;> exact ⟨_, rfl⟩
        next => exact ⟨_, rfl⟩

/-- Exactly the echo messages are to be forwarded. -/
theorem advise_forward_iff {bytes : Bytes} {advice : Advice} (ok : advise bytes = .ok advice) :
    advice = .forward ↔ bytes.head? = some echoRequest ∨ bytes.head? = some echoReply := by
  unfold advise at ok
  cases readable : IcmpMessage.read bytes with
  | error error => rw [readable] at ok; cases ok
  | ok message =>
      rw [readable] at ok
      rw [IcmpMessage.head?_of_read readable, Option.some.injEq, Option.some.injEq]
      simp only [bind, Except.bind] at ok
      split at ok
      next echo => cases ok; exact iff_of_true rfl echo
      next other =>
        refine iff_of_false ?_ other
        split at ok
        next => split at ok <;> cases ok <;> nofun
        next => cases ok; nofun

/-- A packet-too-big message reports something if it quotes as much as a whole header. -/
theorem exists_readPacketTooBig_iff {bytes : Bytes} (type : bytes.head? = some packetTooBig) :
    (∃ report, readPacketTooBig bytes = .ok report) ↔ 48 ≤ bytes.length := by
  unfold readPacketTooBig
  cases readable : IcmpMessage.read bytes with
  | error error =>
      refine iff_of_false not_exists_error_eq_ok fun long => ?_
      obtain ⟨message, ok⟩ := IcmpMessage.exists_read_iff.mpr (Nat.le_trans (by decide) long)
      cases readable.symm.trans ok
  | ok message =>
      have named : message.type = packetTooBig :=
        Option.some.inj ((IcmpMessage.head?_of_read readable).symm.trans type)
      have length : bytes.length = 8 + message.data.length := by
        rw [IcmpMessage.eq_encode_of_read readable, IcmpMessage.length_encode]
      have quotes : (∃ found, Ipv6Address.read? (message.data.drop 24) = some found) ↔
          16 ≤ message.data.length - 24 := by
        rw [Ipv6Address.exists_read?_iff, List.length_drop]
      simp only [bind, Except.bind, named, if_true, quotedIpv6Destination?]
      cases quoted : Ipv6Address.read? (message.data.drop 24) with
      | none =>
          refine iff_of_false not_exists_error_eq_ok fun long => ?_
          obtain ⟨found, same⟩ := quotes.mpr (by omega)
          cases quoted.symm.trans same
      | some found =>
          have long := quotes.mp ⟨found, quoted⟩
          exact iff_of_true ⟨_, rfl⟩ (by omega)

end Icmp

/-! ## Segments -/

/-- How much of a segment has to be there so that its checksum can be rewritten. -/
def UpperProtocol.leastLength : UpperProtocol → Nat
  | tcp => 18
  | udp => 8
  | icmp => 4

theorem UpperProtocol.checksumOffset_add_two (protocol : UpperProtocol) :
    protocol.checksumOffset + 2 = protocol.leastLength := by
  cases protocol <;> rfl

/-- A stored checksum is zero if both of its bytes are. -/
theorem Segment.checksumAt?_eq_zero_iff {offset : Nat} {segment : Bytes} :
    checksumAt? offset segment = some 0 ↔
      segment[offset]? = some 0 ∧ segment[offset + 1]? = some 0 := by
  rw [← List.head?_drop, ← List.getElem?_drop]
  unfold checksumAt?
  split
  next first second rest tail =>
    rw [tail]
    simp only [List.head?_cons, List.getElem?_cons_succ, List.getElem?_cons_zero,
      Option.some.injEq]
    constructor
    · intro zero
      exact ⟨(Wire.high_word first second).symm.trans (congrArg Wire.high zero),
        (Wire.low_word first second).symm.trans (congrArg Wire.low zero)⟩
    · rintro ⟨rfl, rfl⟩
      rfl
  next other =>
    refine iff_of_false nofun ?_
    rintro ⟨first, second⟩
    match tail : segment.drop offset with
    | [] => rw [tail] at first; cases first
    | [last] => rw [tail] at second; cases second
    | high :: low :: rest => exact other high low rest tail

/-- A checksum can be computed under any endpoints of one family. -/
theorem Checksum.exists_upperLayer {source destination : Address}
    (same : source.family = destination.family) (protocol : UInt8) (message : Bytes) :
    ∃ checksum, upperLayer source destination protocol message = .ok checksum := by
  unfold upperLayer
  split
  next alone => exact ⟨_, if_pos (same.symm.trans alone.2)⟩
  next =>
    rw [pseudoHeaderSum, if_pos same]
    exact ⟨_, rfl⟩

/-- **A segment can be given new endpoints** if it is empty or reaches its checksum. The checksum
must not be missing from the first of several fragments that come from IPv4. -/
theorem Segment.exists_readdress_iff {protocol : UpperProtocol} {before after : Endpoints}
    {fragmented : Bool} {segment : Bytes}
    (led : after.source.family = after.destination.family) :
    (∃ result, readdress protocol before after fragmented segment = .ok result) ↔
      (segment ≠ [] → protocol.leastLength ≤ segment.length) ∧
        ¬ ((protocol = .udp ∧ checksumAt? protocol.checksumOffset segment = some 0) ∧
          (before.source.family = .inet ∧ after.source.family = .inet6) ∧
            fragmented = true) := by
  rw [← protocol.checksumOffset_add_two]
  by_cases empty : segment = []
  · refine iff_of_true ⟨segment, ?_⟩ ⟨fun carries => absurd empty carries, fun missing => ?_⟩
    · simp only [readdress, empty, if_true]
    · have reaches := le_length_of_checksumAt? missing.1.2
      rw [empty, List.length_nil] at reaches
      omega
  · simp only [readdress, empty, if_false, ne_eq, not_false_eq_true, true_imp_iff]
    cases found : checksumAt? protocol.checksumOffset segment with
    | none =>
        refine iff_of_false not_exists_error_eq_ok fun reaches => ?_
        obtain ⟨stored, same⟩ := exists_checksumAt? reaches.1
        cases found.symm.trans same
    | some stored =>
        rw [and_iff_right (le_length_of_checksumAt? found), Option.some.injEq]
        simp only
        split
        next zero =>
          split
          next crossing =>
            cases fragmented with
            | true =>
                exact iff_of_false not_exists_error_eq_ok fun present =>
                  present ⟨zero, crossing, rfl⟩
            | false =>
                obtain ⟨checksum, ok⟩ := Checksum.exists_upperLayer led
                  (UpperProtocol.udp.number after.source.family) segment
                simp only [Bool.false_eq_true, if_false, ok]
                exact iff_of_true ⟨_, rfl⟩ fun missing => missing.2.2.elim
          next stays => exact iff_of_true ⟨_, rfl⟩ fun missing => stays missing.2.1
        next present => exact iff_of_true ⟨_, rfl⟩ fun missing => present missing.1

/-! ## Payloads -/

namespace PacketView

/-- What stands at the beginning of a datagram can be converted on a way. -/
inductive Convertible (view : PacketView) : Way → Prop where
  | echoToIpv6 (message : view.protocol = .icmp) (long : 8 ≤ view.payload.length)
      (echo : view.IsEcho .inet) : Convertible view .fourToSix
  | echoToIpv4 (message : view.protocol = .icmp) (long : 8 ≤ view.payload.length)
      (echo : view.IsEcho .inet6) : Convertible view .sixToFour
  | segment {way : Way} (covered : view.protocol = .icmp → way = .sixToSix)
      (reaches : view.payload ≠ [] → view.protocol.leastLength ≤ view.payload.length)
      (present : way = .fourToSix → view.protocol = .udp → view.moreFragments = true →
        ¬ (view.payload[6]? = some 0 ∧ view.payload[7]? = some 0)) :
      Convertible view way

variable {table : MappingTable} {view : PacketView} {way : Way} {after : Endpoints}

theorem exists_convert_segment_iff (leads : table.Leads way view.endpoints after)
    (first : view.offset = 0) (covered : view.protocol = .icmp → way = .sixToSix) :
    (∃ payload, view.convert way after = .ok payload) ↔ view.Convertible way := by
  have fragment : view.isFragment = view.moreFragments := by
    rw [isFragment, first, bne_self_eq_false, Bool.or_false]
  rw [convert_of_segment first covered, fragment, Segment.exists_readdress_iff leads.one_target]
  rw [leads.crosses_iff]
  constructor
  · rintro ⟨reaches, present⟩
    refine .segment covered reaches fun across udp more missing => present ⟨⟨udp, ?_⟩, across, more⟩
    rw [udp]
    exact Segment.checksumAt?_eq_zero_iff.mpr missing
  · intro convertible
    cases convertible with
    | echoToIpv6 message => cases covered message
    | echoToIpv4 message => cases covered message
    | segment _ reaches present =>
        refine ⟨reaches, ?_⟩
        rintro ⟨⟨udp, missing⟩, across, more⟩
        refine present across udp more ?_
        rw [udp] at missing
        exact Segment.checksumAt?_eq_zero_iff.mp missing

/-- **Which payloads can be converted** on the way that the table leads a packet. -/
theorem exists_convert_iff (leads : table.Leads way view.endpoints after) :
    (∃ payload, view.convert way after = .ok payload) ↔
      (view.offset = 0 → view.Convertible way) := by
  by_cases first : view.offset = 0
  · rw [forall_prop_of_true first]
    by_cases covered : view.protocol = .icmp → way = .sixToSix
    · exact exists_convert_segment_iff leads first covered
    · obtain ⟨message, crosses⟩ := Classical.not_imp.mp covered
      cases way with
      | fourToSix =>
          rw [convert_of_echo_fourToSix first message, Icmp.exists_cross_iff leads.one_target,
            Icmp.exists_toIpv6_iff]
          constructor
          · exact fun ⟨long, echo⟩ => .echoToIpv6 message long echo
          · intro convertible
            cases convertible with
            | echoToIpv6 _ long echo => exact ⟨long, echo⟩
            | segment covered => cases covered message
      | sixToFour =>
          rw [convert_of_echo_sixToFour first message, Icmp.exists_cross_iff leads.one_origin,
            Icmp.exists_toIpv4_iff]
          constructor
          · exact fun ⟨long, echo⟩ => .echoToIpv4 message long echo
          · intro convertible
            cases convertible with
            | echoToIpv4 _ long echo => exact ⟨long, echo⟩
            | segment covered => cases covered message
      | sixToSix => exact absurd rfl crosses
  · rw [convert_of_offset first]
    exact iff_of_true ⟨_, rfl⟩ fun zero => absurd zero first

end PacketView

end FamilyGateway
