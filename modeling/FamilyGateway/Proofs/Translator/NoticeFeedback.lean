import FamilyGateway.Proofs.PathMtu.Retention
import FamilyGateway.Proofs.Translator.Conversion
import FamilyGateway.Proofs.Translator.Emission

/-!
# What is learnt from a notice

A notice is written for the sender of a packet, and the sender may itself be behind a
gateway. What writes a notice and what reads one share no more than the layout of a message:
the writer quotes a part of the packet and names a size, and the reader looks for a
destination inside of the quote and brings the size into its own range.

The two agree (`Icmp.notices_understood`). A notice verifies and quotes the packet from its
first byte on. Whichever translator it reaches absorbs it, and from then on holds the size
that was named for the path MTU towards the destination of the packet, whatever it had
learnt before and even if it has to forget something to make room.
-/

set_option autoImplicit false

namespace FamilyGateway

open Checksum (verifies verifiesAlone total)

/-! ## Caches -/

namespace Translator.Reachable

variable {translator : Translator}

/-- The cache of a translator is what some course of reports leads to. -/
theorem exists_reports (reached : translator.Reachable) :
    ∃ maxEntries lifetime reports,
      translator.pathMtu = .after maxEntries lifetime reports := by
  have learnt {cache : PathMtu.Cache} (report : PathMtu.Feedback)
      (before : ∃ maxEntries lifetime reports,
        cache = PathMtu.Cache.after maxEntries lifetime reports) :
      ∃ maxEntries lifetime reports,
        cache.learn report = PathMtu.Cache.after maxEntries lifetime reports := by
    obtain ⟨maxEntries, lifetime, reports, rfl⟩ := before
    exact ⟨maxEntries, lifetime, reports ++ [report],
      (PathMtu.Cache.after_concat maxEntries lifetime reports report).symm⟩
  induction reached with
  | opening maxEntries lifetime window noticesPerWindow => exact ⟨maxEntries, lifetime, [], rfl⟩
  | step reached surroundings family packet ih =>
      rcases pathMtu_step _ surroundings family packet with same | ⟨report, entered⟩
      · rw [same]
        exact ih
      · rw [entered]
        exact learnt ⟨report.destination, report.mtu, surroundings.now⟩ ih
  | feedback reached destination mtu now ih => exact learnt ⟨destination, mtu, now⟩ ih
  | reload reached table ih => exact ih

/-- A report that is entered is found, even if the cache has to make room for it. -/
theorem lookup_enter (reached : translator.Reachable) (report : Icmp.Report) (now : Instant) :
    (report.enter translator.pathMtu now).lookup report.destination =
      max report.mtu (PathMtu.floor report.destination.family) := by
  obtain ⟨maxEntries, lifetime, reports, learnt⟩ := reached.exists_reports
  obtain ⟨rows, lists, _⟩ := PathMtu.Cache.exists_lists maxEntries lifetime reports
  have dated := PathMtu.Cache.dated_after maxEntries lifetime reports
  have room : 2 ≤ (PathMtu.Cache.after maxEntries lifetime reports).maxEntries := by
    rw [(PathMtu.Cache.limits_after maxEntries lifetime reports).1]
    exact Nat.le_max_right _ _
  rw [learnt]
  exact (PathMtu.Cache.retains_learn lists dated room ⟨report.destination, report.mtu, now⟩).lookup

end Translator.Reachable

/-! ## Checksums of notices -/

namespace IcmpMessage

theorem length_filled (message : IcmpMessage) (checksum : UInt16) :
    { message with checksum := checksum }.encode.length = message.encode.length := by
  rw [length_encode, length_encode]

/-- A message with a checksum filled in sums up to what it did before, and the checksum. -/
theorem total_filled (message : IcmpMessage) (checksum : UInt16) :
    total { message with checksum := checksum }.encode =
      total { message with checksum := 0 }.encode + checksum.toNat := by
  simp only [total_encode, UInt16.toNat_zero]
  omega

end IcmpMessage

namespace Icmp

theorem verifiesAlone_fragmentationNeeded (packet : Bytes) (mtu : UInt16) :
    verifiesAlone (fragmentationNeededMessage packet mtu).encode = true := by
  let blank : IcmpMessage := { fragmentationNeededMessage packet mtu with checksum := 0 }
  have checksum : (fragmentationNeededMessage packet mtu).checksum =
      Checksum.ofSum (Checksum.wordSum blank.encode) := rfl
  have short := length_fragmentationNeededMessage_le packet mtu
  have same : blank.encode.length = (fragmentationNeededMessage packet mtu).encode.length :=
    (fragmentationNeededMessage packet mtu).length_filled 0
  have sum : total (fragmentationNeededMessage packet mtu).encode =
      total blank.encode + (fragmentationNeededMessage packet mtu).checksum.toNat :=
    (fragmentationNeededMessage packet mtu).total_filled _
  have named := blank.total_encode
  have type : blank.type.toNat = 3 := rfl
  have folded := Checksum.fold_mod (Checksum.wordSum blank.encode)
  have bound := (Checksum.fold (Checksum.wordSum blank.encode)).toNat_lt
  rw [Checksum.toNat_wordSum _ (by omega)] at folded
  rw [checksum, Checksum.toNat_ofSum] at sum
  rw [Checksum.verifiesAlone_iff (by omega)]
  omega

theorem verifies_packetTooBig (packet : Bytes) (source destination : Ipv6Address)
    (mtu : UInt32) :
    verifies ⟨.v6 source, .v6 destination⟩ 58
      (packetTooBigMessage packet source destination mtu).encode = true := by
  let message := packetTooBigMessage packet source destination mtu
  have short : message.encode.length ≤ 1240 :=
    length_packetTooBigMessage_le packet source destination mtu
  have same : { message with checksum := 0 }.encode.length = message.encode.length :=
    message.length_filled 0
  exact Checksum.verifies_of_computed (by decide) (by omega) same.symm
    (message.total_filled message.checksum) rfl

end Icmp

/-! ## Quoted headers -/

theorem Ipv4Fields.exists_read?_of_le {packet : Bytes} (long : 20 ≤ packet.length) :
    ∃ found, read? packet = some found := by
  match packet, long with
  | versionAndLength :: serviceType :: t1 :: t2 :: i1 :: i2 :: f1 :: f2 :: timeToLive ::
      protocol :: c1 :: c2 :: addresses, long =>
    simp only [List.length_cons] at long
    obtain ⟨⟨source, behind⟩, first⟩ : ∃ found, Ipv4Address.read? addresses = some found :=
      Ipv4Address.exists_read?_iff.mpr (by omega)
    have length : addresses.length = 4 + behind.length := by
      rw [Ipv4Address.eq_of_read? first, List.length_append]
      rfl
    obtain ⟨⟨destination, rest⟩, second⟩ : ∃ found, Ipv4Address.read? behind = some found :=
      Ipv4Address.exists_read?_iff.mpr (by omega)
    simp only [read?, first, second, Option.bind_eq_bind, Option.bind_some, Option.some.injEq,
      exists_eq']

theorem Ipv6Fields.exists_read?_of_le {packet : Bytes} (long : 40 ≤ packet.length) :
    ∃ found, read? packet = some found := by
  match packet, long with
  | v1 :: v2 :: v3 :: v4 :: l1 :: l2 :: nextHeader :: hopLimit :: addresses, long =>
    simp only [List.length_cons] at long
    obtain ⟨⟨source, behind⟩, first⟩ : ∃ found, Ipv6Address.read? addresses = some found :=
      Ipv6Address.exists_read?_iff.mpr (by omega)
    have length : addresses.length = 16 + behind.length := by
      rw [Ipv6Address.eq_of_read? first, List.length_append]
      rfl
    obtain ⟨⟨destination, rest⟩, second⟩ : ∃ found, Ipv6Address.read? behind = some found :=
      Ipv6Address.exists_read?_iff.mpr (by omega)
    simp only [read?, first, second, Option.bind_eq_bind, Option.bind_some, Option.some.injEq,
      exists_eq']

namespace Icmp

/-- The destination of a packet is found in every part of it that reaches as far as the header. -/
theorem quotedIpv4Destination?_take (fields : Ipv4Fields) (rest : Bytes) {quoted : Nat}
    (covered : 20 ≤ quoted) :
    quotedIpv4Destination? ((fields.encode ++ rest).take quoted) = some fields.destination := by
  rw [List.take_append, List.take_of_length_le (by rwa [Ipv4Fields.length_encode])]
  rfl

theorem quotedIpv6Destination?_take (fields : Ipv6Fields) (rest : Bytes) {quoted : Nat}
    (covered : 40 ≤ quoted) :
    quotedIpv6Destination? ((fields.encode ++ rest).take quoted) = some fields.destination := by
  rw [List.take_append, List.take_of_length_le (by rwa [Ipv6Fields.length_encode])]
  have destination := fields.destination.read?_octets
    (rest.take (quoted - fields.encode.length))
  exact congrArg (Option.map Prod.fst) destination

theorem toNat_clampIpv6Mtu (mtu : UInt32) :
    (clampIpv6Mtu mtu).toNat = min (max mtu.toNat 1280) 65535 := by
  have smaller : clampIpv6Mtu mtu =
      (if max mtu (PathMtu.floor .inet6).toUInt32 ≤ 65535
        then max mtu (PathMtu.floor .inet6).toUInt32 else 65535).toUInt16 := rfl
  rw [smaller, Nat.min_def, UInt32.toNat_toUInt16]
  simp only [UInt32.le_iff_toNat_le, UInt32.reduceToNat, ← toNat_sizeIpv6]
  split
  next within => exact Nat.mod_eq_of_lt (Nat.lt_succ_of_le within)
  next => rfl

/-- What a fragmentation-needed message reports about a packet. -/
theorem advise_fragmentationNeeded {packet rest : Bytes} {fields : Ipv4Fields}
    (read : Ipv4Fields.read? packet = some (fields, rest)) (whole : 20 ≤ fields.headerLength)
    (mtu : UInt16) :
    ∃ size, advise (fragmentationNeededMessage packet mtu).encode =
      .ok (.discard (some ⟨.v4 fields.destination, size⟩)) ∧
        size.toNat = max mtu.toNat 68 := by
  have quoted : quotedIpv4Destination? (fragmentationNeededMessage packet mtu).data =
      some fields.destination := by
    obtain rfl := Ipv4Fields.eq_of_read? read
    exact quotedIpv4Destination?_take fields rest (Nat.le_trans whole (Nat.le_add_right _ 8))
  refine ⟨max (Wire.lower (max mtu (PathMtu.floor .inet)).toUInt32) (PathMtu.floor .inet), ?_, ?_⟩
  · rw [advise, IcmpMessage.read_encode]
    simp only [bind, Except.bind, quoted]
    rfl
  · rw [PathMtu.toNat_max, toNat_sizeIpv4]
    exact Nat.max_eq_left (Nat.le_max_right _ _)

/-- What a packet-too-big message reports about a packet. -/
theorem readPacketTooBig_packetTooBig {packet rest : Bytes} {fields : Ipv6Fields}
    (read : Ipv6Fields.read? packet = some (fields, rest)) (source destination : Ipv6Address)
    (mtu : UInt32) :
    ∃ size, readPacketTooBig (packetTooBigMessage packet source destination mtu).encode =
      .ok ⟨.v6 fields.destination, size⟩ ∧ size.toNat = min (max mtu.toNat 1280) 65535 := by
  have quoted : quotedIpv6Destination?
      (packetTooBigMessage packet source destination mtu).data = some fields.destination := by
    obtain rfl := Ipv6Fields.eq_of_read? read
    exact quotedIpv6Destination?_take fields rest (by decide)
  refine ⟨clampIpv6Mtu (max mtu (PathMtu.floor .inet6).toUInt32), ?_, ?_⟩
  · rw [readPacketTooBig, IcmpMessage.read_encode]
    simp only [bind, Except.bind, quoted]
    rfl
  · rw [toNat_clampIpv6Mtu, toNat_sizeIpv6]
    omega

end Icmp

/-! ## Notices that arrive -/

/-- A packet that is emitted is a fragment if its header was made for one. -/
theorem Ipv4Header.isFragment_emitted {header : Ipv4Header} (payload : Bytes)
    (aligned : header.fragmentOffset.toNat % 8 = 0) :
    Ipv4Datagram.isFragment ⟨header.fields payload.length, payload⟩ =
      (header.moreFragments || header.fragmentOffset != 0) := by
  obtain ⟨_, more, offset⟩ := Ipv4Fields.read_flagWord
    (show (header.fields payload.length).flagsAndOffset = _ from rfl) aligned
  rw [Ipv4Datagram.isFragment, more, offset]

namespace Plan

variable (table : MappingTable)

theorem of_fragmentationNeededNotice {packet : Bytes} {mtu : UInt16} {report : Icmp.Report}
    (source destination : Ipv4Address)
    (advice : Icmp.advise (Icmp.fragmentationNeededMessage packet mtu).encode =
      .ok (.discard (some report))) :
    ofPacket table .inet (Icmp.fragmentationNeededNotice packet source destination mtu).bytes =
      .ok (.absorb (some report)) := by
  have short := Icmp.length_fragmentationNeededMessage_le packet mtu
  refine of_made ?_
  rw [Icmp.fragmentationNeededNotice, OutboundPacket.bytes_of_plain]
  exact .absorbIpv4 (Ipv4Datagram.read_emit _ _ (by omega)) rfl
    (Ipv4Header.isFragment_emitted _ rfl) advice

theorem of_packetTooBigNotice {packet : Bytes} {source destination : Ipv6Address} {mtu : UInt32}
    {report : Icmp.Report}
    (reported : Icmp.readPacketTooBig
      (Icmp.packetTooBigMessage packet source destination mtu).encode = .ok report) :
    ofPacket table .inet6 (Icmp.packetTooBigNotice packet source destination mtu).bytes =
      .ok (.absorb (some report)) := by
  have short := Icmp.length_packetTooBigMessage_le packet source destination mtu
  refine of_made ?_
  rw [Icmp.packetTooBigNotice, OutboundPacket.bytes_of_plain]
  exact .absorbIpv6 (Ipv6Datagram.read_plain _ .icmp _ (Ipv6Header.version_fields _ _)
    (Nat.mod_eq_of_lt (by omega)) rfl) rfl reported

end Plan

/-- A packet that ends in a report changes what is known about one path and nothing else. -/
theorem Translator.step_of_report {translator : Translator} {family : Family} {packet : Bytes}
    {report : Icmp.Report}
    (planned : Plan.ofPacket translator.table family packet = .ok (.absorb (some report)))
    (surroundings : Surroundings) :
    translator.step surroundings family packet =
      ⟨{ translator with pathMtu := report.enter translator.pathMtu surroundings.now },
        .ok [], []⟩ := by
  rw [step, planned]
  rfl

namespace Icmp

/-! ## What notices bring about -/

/-- A message of a family ends where it is read, and what is left of it is a report. -/
inductive EndsIn : Family → Bytes → Report → Prop where
  | fragmentationNeeded {message : Bytes} {report : Report}
      (advice : advise message = .ok (.discard (some report))) : EndsIn .inet message report
  | packetTooBig {message : Bytes} {report : Report}
      (read : readPacketTooBig message = .ok report) : EndsIn .inet6 message report

/-- Wherever a notice arrives, it is taken for a report that the paths to a destination have a
size. -/
structure Teaches (notice : OutboundPacket) (destination : Address) (size : Nat)
    (report : Report) : Prop where
  ends : EndsIn notice.family notice.payload report
  /-- A packet with the notice sends nothing and enters the report. -/
  absorbed : ∀ (translator : Translator) (surroundings : Surroundings),
    translator.step surroundings notice.family notice.bytes =
      ⟨{ translator with pathMtu := report.enter translator.pathMtu surroundings.now },
        .ok [], []⟩
  /-- What is entered is found. -/
  learnt : ∀ translator : Translator, translator.Reachable → ∀ now : Instant,
    ((report.enter translator.pathMtu now).lookup destination).toNat = size

/-- A translator that receives the notice knows the size. -/
theorem Teaches.lookup_step {notice : OutboundPacket} {destination : Address} {size : Nat}
    {report : Report} (teaches : Teaches notice destination size report)
    {translator : Translator} (reached : translator.Reachable) (surroundings : Surroundings) :
    ((translator.step surroundings notice.family notice.bytes).translator.pathMtu.lookup
      destination).toNat = size := by
  rw [teaches.absorbed]
  exact teaches.learnt translator reached surroundings.now

theorem teaches_fragmentationNeeded {packet rest : Bytes} {fields : Ipv4Fields}
    (read : Ipv4Fields.read? packet = some (fields, rest)) (whole : 20 ≤ fields.headerLength)
    (source destination : Ipv4Address) (mtu : UInt16) :
    ∃ report, Teaches (fragmentationNeededNotice packet source destination mtu)
      (.v4 fields.destination) (max mtu.toNat 68) report := by
  obtain ⟨size, advice, value⟩ := advise_fragmentationNeeded read whole mtu
  refine ⟨⟨.v4 fields.destination, size⟩, .fragmentationNeeded advice, ?_, ?_⟩
  · intro translator surroundings
    exact Translator.step_of_report
      (Plan.of_fragmentationNeededNotice translator.table source destination advice) surroundings
  · intro translator reached now
    -- The size was raised to the floor by the writer, so the cache has nothing to raise.
    rw [reached.lookup_enter ⟨.v4 fields.destination, size⟩ now, PathMtu.toNat_max, value]
    exact Nat.max_eq_left (Nat.le_max_right _ _)

theorem teaches_packetTooBig {packet rest : Bytes} {fields : Ipv6Fields}
    (read : Ipv6Fields.read? packet = some (fields, rest)) (source destination : Ipv6Address)
    (mtu : UInt32) :
    ∃ report, Teaches (packetTooBigNotice packet source destination mtu)
      (.v6 fields.destination) (min (max mtu.toNat 1280) 65535) report := by
  obtain ⟨size, reported, value⟩ := readPacketTooBig_packetTooBig read source destination mtu
  refine ⟨⟨.v6 fields.destination, size⟩, .packetTooBig reported, ?_, ?_⟩
  · intro translator surroundings
    exact Translator.step_of_report
      (Plan.of_packetTooBigNotice translator.table reported) surroundings
  · intro translator reached now
    rw [reached.lookup_enter ⟨.v6 fields.destination, size⟩ now, PathMtu.toNat_max, value]
    show max (min (max mtu.toNat 1280) 65535) 1280 = min (max mtu.toNat 1280) 65535
    omega

/-- **Notices are understood.** A notice about any packet that has a header verifies, quotes the
packet from its first byte on, and wherever it arrives the size that it names becomes the path
MTU towards the destination of the packet. A packet-too-big notice is never longer than every
path allows. -/
theorem notices_understood :
    (∀ (packet : Bytes) (source destination : Ipv4Address) (mtu : UInt16), 20 ≤ packet.length →
      ∃ fields rest, Ipv4Fields.read? packet = some (fields, rest) ∧
        (20 ≤ fields.headerLength →
          verifiesAlone (fragmentationNeededNotice packet source destination mtu).payload =
              true ∧
            (fragmentationNeededNotice packet source destination mtu).payload.drop 8 =
              packet.take (fields.headerLength + 8) ∧
            ∃ report, Teaches (fragmentationNeededNotice packet source destination mtu)
              (.v4 fields.destination) (max mtu.toNat 68) report)) ∧
    ∀ (packet : Bytes) (source destination : Ipv6Address) (mtu : UInt32), 40 ≤ packet.length →
      ∃ fields rest, Ipv6Fields.read? packet = some (fields, rest) ∧
        verifies ⟨.v6 source, .v6 destination⟩ 58
            (packetTooBigNotice packet source destination mtu).payload = true ∧
          (packetTooBigNotice packet source destination mtu).payload.drop 8 =
            packet.take 1232 ∧
          (packetTooBigNotice packet source destination mtu).bytes.length ≤ 1280 ∧
          ∃ report, Teaches (packetTooBigNotice packet source destination mtu)
            (.v6 fields.destination) (min (max mtu.toNat 1280) 65535) report := by
  constructor
  · intro packet source destination mtu long
    obtain ⟨⟨fields, rest⟩, read⟩ := Ipv4Fields.exists_read?_of_le long
    refine ⟨fields, rest, read, fun whole =>
      ⟨verifiesAlone_fragmentationNeeded packet mtu, ?_,
        teaches_fragmentationNeeded read whole source destination mtu⟩⟩
    rw [Ipv4Fields.eq_of_read? read]
    rfl
  · intro packet source destination mtu long
    obtain ⟨⟨fields, rest⟩, read⟩ := Ipv6Fields.exists_read?_of_le long
    refine ⟨fields, rest, read, verifies_packetTooBig packet source destination mtu, rfl, ?_,
      teaches_packetTooBig read source destination mtu⟩
    rw [length_packetTooBigNotice]
    have room := Nat.min_le_left ipv6QuoteRoom packet.length
    have size : ipv6QuoteRoom = 1232 := rfl
    omega

/-- A translator whose cache has no room for another destination. -/
def crowded : Translator :=
  let fresh : Translator := .fresh (.empty 2 PathMtu.defaultLifetime) 10
  let first := { fresh with pathMtu := fresh.pathMtu.record (.v4 ⟨198, 51, 100, 1⟩) 1400 0 }
  { first with pathMtu := first.pathMtu.record (.v4 ⟨198, 51, 100, 2⟩) 1300 0 }

/-- A packet that ends inside of the options that its header announces. -/
def cutOptions : Bytes :=
  Ipv4Fields.encode ⟨0x46, 0, 40, 0, 0, 64, 17, 0, Sample.host.ipv4, Sample.remote⟩ ++ [1, 1]

theorem notices_understood_crowded :
    crowded.Reachable ∧ 20 ≤ cutOptions.length ∧ 40 ≤ (Sample.wholePacket []).length ∧
      ((crowded.step Sample.answering .inet
          (fragmentationNeededNotice cutOptions Sample.remote Sample.host.ipv4 60).bytes
        ).translator.pathMtu.lookup (.v4 Sample.remote)).toNat = 68 ∧
      ((crowded.step Sample.answering .inet6
          (packetTooBigNotice (Sample.wholePacket []) Sample.host.ipv6 Sample.host.ipv6
            100000).bytes
        ).translator.pathMtu.lookup (.v6 (.embed Sample.network Sample.remote))).toNat =
          65535 := by
  have reached : crowded.Reachable :=
    .feedback (.feedback (.fresh 2 PathMtu.defaultLifetime 10) _ _ _) _ _ _
  refine ⟨reached, by decide, by decide, ?_, ?_⟩
  · obtain ⟨fields, rest, read, understood⟩ :=
      notices_understood.1 cutOptions Sample.remote Sample.host.ipv4 60 (by decide)
    obtain rfl : _ = fields :=
      (Prod.mk.inj (Option.some.inj ((Ipv4Fields.read?_encode _ [1, 1]).symm.trans read))).1
    obtain ⟨-, -, report, teaches⟩ := understood (by decide)
    exact teaches.lookup_step reached Sample.answering
  · obtain ⟨fields, rest, read, -, -, -, report, teaches⟩ :=
      notices_understood.2 (Sample.wholePacket []) Sample.host.ipv6 Sample.host.ipv6 100000
        (by decide)
    obtain rfl : _ = fields :=
      (Prod.mk.inj (Option.some.inj ((Ipv6Fields.read?_encode _ []).symm.trans read))).1
    exact teaches.lookup_step reached Sample.answering

end Icmp

end FamilyGateway
