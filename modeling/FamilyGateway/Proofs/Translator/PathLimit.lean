import FamilyGateway.Proofs.Icmp.Advertisement
import FamilyGateway.Proofs.Translator.Reachable

/-!
# Nothing exceeds the path MTU

The pieces of a payload are multiples of eight bytes, and at least eight, so they fit only
into a packet that has room for eight bytes. The floors of the path MTU cache leave that
much room on both ways. Hence whatever happened before, a packet that crosses between the
families is sent in packets that the path to its destination is known to take
(`FourToSix.length_packets_le`, `SixToFour.length_packets_le`), and with the bounds on
notices every packet that is sent has a bounded length (`Translator.within_path_mtu`).
-/

set_option autoImplicit false

namespace FamilyGateway

open OutboundPacket (view?)

/-! ## Packets of a crossing -/

/-- Pieces fit where eight bytes fit. -/
theorem Piece.size_le {room : Nat} (enough : 8 ≤ room) : size room ≤ room := by
  simp only [size]
  omega

namespace FourToSix

variable (crossing : FourToSix)

theorem length_whole : crossing.whole.bytes.length = 40 + crossing.payload.length := by
  rw [OutboundPacket.length_bytes]
  rfl

theorem length_fragment (identification : UInt32) (piece : Piece) :
    (crossing.fragment identification piece).bytes.length = 48 + piece.data.length := by
  rw [OutboundPacket.length_bytes]
  rfl

/-- Packets over IPv6 stay within the path MTU. -/
theorem length_packets_le {mtu : UInt16} (floored : (PathMtu.floor .inet6).toNat ≤ mtu.toNat)
    (drawn : UInt32) :
    ∀ output ∈ crossing.packets mtu drawn, output.bytes.length ≤ mtu.toNat := by
  have floor : 1280 ≤ mtu.toNat := floored
  have space : room mtu = mtu.toNat - 48 := rfl
  intro output member
  unfold packets isSplit at member
  split at member
  next =>
    obtain ⟨piece, cut, rfl⟩ := List.mem_map.mp member
    obtain ⟨_, _, _, short⟩ := Piece.cut_bounds _ _ _ piece cut
    have fits := Nat.le_trans short (Piece.size_le (show 8 ≤ room mtu by omega))
    rw [length_fragment]
    omega
  next split =>
    have fits : crossing.payload.length ≤ room mtu :=
      Nat.le_of_not_lt fun larger => split (decide_eq_true larger)
    split at member
    next =>
      rw [List.mem_singleton.mp member, length_fragment]
      show 48 + crossing.payload.length ≤ mtu.toNat
      omega
    next =>
      rw [List.mem_singleton.mp member, length_whole]
      omega

end FourToSix

namespace SixToFour

variable (crossing : SixToFour)

theorem length_whole (drawn : UInt32) :
    (crossing.whole drawn).bytes.length = 20 + crossing.payload.length := by
  rw [OutboundPacket.length_bytes]
  rfl

theorem length_fragment (drawn : UInt32) (piece : Piece) :
    (crossing.fragment drawn piece).bytes.length = 20 + piece.data.length := by
  rw [OutboundPacket.length_bytes]
  rfl

/-- Packets over IPv4 stay within the path MTU. -/
theorem length_packets_le {mtu : UInt16} (floored : (PathMtu.floor .inet).toNat ≤ mtu.toNat)
    (drawn : UInt32) :
    ∀ output ∈ crossing.packets mtu drawn, output.bytes.length ≤ mtu.toNat := by
  have floor : 68 ≤ mtu.toNat := floored
  have space : room mtu = mtu.toNat - 20 := rfl
  intro output member
  unfold packets isSplit at member
  split at member
  next =>
    obtain ⟨piece, cut, rfl⟩ := List.mem_map.mp member
    obtain ⟨_, _, _, short⟩ := Piece.cut_bounds _ _ _ piece cut
    have fits := Nat.le_trans short (Piece.size_le (show 8 ≤ room mtu by omega))
    rw [length_fragment]
    omega
  next split =>
    have fits : 20 + crossing.payload.length ≤ mtu.toNat :=
      Nat.le_of_not_lt fun larger => split (decide_eq_true larger)
    rw [List.mem_singleton.mp member, length_whole]
    exact fits

end SixToFour

/-! ## Notices -/

/-- No notice of a family is longer. -/
def noticeLimit : Family → Nat
  | .inet => 56
  | .inet6 => 1280

namespace Translator

variable {translator : Translator} {surroundings : Surroundings}

/-- Notices that advertise a size to senders of a family, and are short. -/
def ShortNotices (family : Family) (notices : List OutboundPacket) : Prop :=
  ∀ notice ∈ notices, notice.family = family ∧ (∃ size, notice.advertised? = some size) ∧
    notice.bytes.length ≤ noticeLimit family

theorem shortNotices_noticesIpv4 (translator : Translator) (surroundings : Surroundings)
    {packet : Bytes} {datagram : Ipv4Datagram} (read : Ipv4Datagram.read packet = .ok datagram)
    (crossing : FourToSix) :
    ShortNotices .inet (translator.noticesIpv4 surroundings datagram.fields.source
      (packet.take datagram.fields.totalLength.toNat) crossing) := by
  have quoted := Icmp.length_ipv4Quote_le read
  refine translator.forall_noticesIpv4 surroundings (fun source mtu => ?_) crossing
  refine ⟨rfl, ⟨_, Icmp.advertised?_fragmentationNeeded _ _ _ _⟩, ?_⟩
  rw [Icmp.length_fragmentationNeededNotice, noticeLimit]
  omega

theorem shortNotices_noticesIpv6 (translator : Translator) (surroundings : Surroundings)
    (sender : Ipv6Address) (arrived : Bytes) (crossing : SixToFour) :
    ShortNotices .inet6 (translator.noticesIpv6 surroundings sender arrived crossing) := by
  have room : Icmp.ipv6QuoteRoom = 1232 := rfl
  refine translator.forall_noticesIpv6 surroundings (fun source mtu => ?_) crossing
  refine ⟨rfl, ⟨_, Icmp.advertised?_packetTooBig _ _ _ _⟩, ?_⟩
  rw [Icmp.length_packetTooBigNotice, noticeLimit]
  omega

/-! ## What is sent -/

/-- What is sent for a packet on its way fits: the notices to its sender are short, and what carries
its payload on to its new destination stays within the path MTU, if it crosses between the
families. -/
structure FitsPath (translator : Translator) (view : PacketView) (way : Way) (after : Endpoints)
    (notices carried : List OutboundPacket) : Prop where
  leads : translator.table.Leads way view.endpoints after
  short : ShortNotices way.origin notices
  addressed : ∀ output ∈ carried, ∃ shown, view? output = some shown ∧ shown.endpoints = after
  within : way ≠ .sixToSix → ∀ output ∈ carried,
    output.bytes.length ≤ (translator.pathMtu.lookup after.destination).toNat

theorem Sends.shortNotices {packet : Bytes} {view : PacketView} {next : Translator} {way : Way}
    {after : Endpoints} {notices carried : List OutboundPacket}
    (sends : translator.Sends surroundings packet view next way after notices carried) :
    ShortNotices way.origin notices := by
  cases sends with
  | toIpv6 read origin upTo suits =>
      rw [upTo]
      exact shortNotices_noticesIpv4 _ _ read _
  | toIpv4 read origin suits => exact shortNotices_noticesIpv6 _ _ _ _ _
  | withinIpv6 leads shown => exact List.forall_mem_nil _

theorem Sends.fitsPath {packet : Bytes} {view : PacketView} {next : Translator} {way : Way}
    {after : Endpoints} {notices carried : List OutboundPacket}
    (sends : translator.Sends surroundings packet view next way after notices carried)
    (reached : translator.Reachable) (aligned : view.offset % 8 = 0) :
    translator.FitsPath view way after notices carried := by
  refine ⟨sends.leads, sends.shortNotices, sends.addressed aligned, fun crosses => ?_⟩
  cases sends with
  | toIpv6 read origin upTo suits =>
      exact FourToSix.length_packets_le _ (reached.floor_le_lookup (.v6 _)) _
  | toIpv4 read origin suits =>
      exact SixToFour.length_packets_le _ (reached.floor_le_lookup (.v4 _)) _
  | withinIpv6 => exact absurd rfl crosses

/-- **Nothing that crosses between the families exceeds the path MTU, and no notice is long.** In
every translator that is reached the path MTU towards a destination is at least the floor of its
family. -/
theorem within_path_mtu (reached : translator.Reachable) (surroundings : Surroundings)
    (family : Family) (packet : Bytes) :
    (∀ destination : Address, (PathMtu.floor destination.family).toNat ≤
      (translator.pathMtu.lookup destination).toNat) ∧
    ∀ packets, (translator.step surroundings family packet).result = .ok packets →
      packets ≠ [] →
      ∃ view way after notices carried, PacketView.read? family packet = some view ∧
        packets = notices ++ carried ∧ translator.FitsPath view way after notices carried := by
  refine ⟨reached.floor_le_lookup, fun packets accepted forwarded => ?_⟩
  obtain ⟨view, read⟩ := exists_view_of_accepted accepted
  obtain ⟨way, after, notices, carried, split, sends⟩ := exists_sends read accepted forwarded
  exact ⟨view, way, after, notices, carried, read, split, sends.fitsPath reached
    (PacketView.offset_aligned read)⟩

theorem within_path_mtu_smallest :
    Sample.translator.Reachable ∧
      ∃ packets,
        (Sample.translator.step Sample.answering .inet6
          (Sample.wholePacket (List.replicate 56 0))).result = .ok packets ∧
        packets ≠ [] ∧
        ∀ output ∈ packets, output.bytes.length ≤ if output.family = .inet then 68 else 1280 := by
  obtain ⟨view, packets, read, _, _, accepted, forwards⟩ := Sample.forwards_wholePacket
  have forwarded := forwards.ne_nil
  refine ⟨Sample.reachable, packets, accepted, forwarded, ?_⟩
  obtain ⟨other, way, after, notices, carried, found, rfl, fits⟩ :=
    (within_path_mtu Sample.reachable Sample.answering .inet6
      (Sample.wholePacket (List.replicate 56 0))).2 packets accepted forwarded
  cases read.symm.trans found
  obtain ⟨rfl, rfl⟩ := forwards.leads.unique fits.leads
  have within : ∀ output ∈ carried, output.bytes.length ≤
      (Sample.translator.pathMtu.lookup (.v4 Sample.remote)).toNat := fits.within Way.noConfusion
  rw [Sample.lookup_remote] at within
  intro output member
  rcases List.mem_append.mp member with notice | carries
  · obtain ⟨family, _, short⟩ := fits.short output notice
    rw [family]
    exact short
  · split
    next => exact within output carries
    next => exact Nat.le_trans (within output carries) (by decide)

end Translator

end FamilyGateway
