import FamilyGateway.Proofs.Mapping.Pairs

/-!
# Replies find their way back

A reply has the endpoints of what it answers, in the other order. Where a table holds no
address twice, the endpoints that a packet is given on its way lead a reply to where the
packet came from: an address under the network is the network with an IPv4 address in it,
the lookups across the families undo one another, and so does the one within IPv6 with
itself (`MappingTable.replies_return`).

The way of a reply is chosen anew, from its own endpoints. It is the way back unless the
address that a packet from IPv4 comes to have in IPv6 is itself in a pair within IPv6; and
a packet that stays in IPv6 may be answered across the families if its unpaired address is
in a pair across them or under the network.
-/

set_option autoImplicit false

namespace FamilyGateway.MappingTable

variable {table : MappingTable}

/-! ## The network -/

theorem covers_embed (table : MappingTable) (low : Ipv4Address) :
    table.covers (.embed table.network low) = true :=
  decide_eq_true rfl

/-- An address under the network is the network with the address's low bits. -/
theorem embed_low {address : Ipv6Address} (covered : table.covers address = true) :
    .embed table.network address.low = address := by
  rw [← of_decide_eq_true covered]
  rfl

/-! ## Ways -/

/-- A packet goes to IPv4 if its source is known and its destination is under the network and
not in a pair within IPv6. -/
theorem classify_eq_sixToFour_iff {source destination : Ipv6Address} :
    table.classify source destination = some .sixToFour ↔
      ((table.peerOf? source).isSome ∨ (table.ipv4Of? source).isSome) ∧
        table.peerOf? destination = none ∧ table.covers destination = true := by
  unfold classify
  cases table.peerOf? source <;> cases table.ipv4Of? source <;>
    cases table.peerOf? destination <;> cases table.covers destination <;> simp

/-- A packet stays in IPv6 if either its destination is in a pair within IPv6 and its source is
not known, or its source is known and its destination is neither in such a pair nor under the
network. -/
theorem classify_eq_sixToSix_iff {source destination : Ipv6Address} :
    table.classify source destination = some .sixToSix ↔
      (table.peerOf? source = none ∧ table.ipv4Of? source = none ∧
          (table.peerOf? destination).isSome) ∨
        ((table.peerOf? source).isSome ∨ (table.ipv4Of? source).isSome) ∧
          table.peerOf? destination = none ∧ table.covers destination = false := by
  unfold classify
  cases table.peerOf? source <;> cases table.ipv4Of? source <;>
    cases table.peerOf? destination <;> cases table.covers destination <;> simp

/-! ## Addresses -/

theorem fourToSix_eq_ok_iff {source destination : Ipv4Address}
    {newSource newDestination : Ipv6Address} :
    table.fourToSix source destination = .ok (newSource, newDestination) ↔
      newSource = .embed table.network source ∧
        table.ipv6Of? destination = some newDestination := by
  unfold fourToSix
  cases table.ipv6Of? destination with
  | none => simp
  | some mapped => simp [eq_comm]

theorem sixToFour_eq_ok_iff {source destination : Ipv6Address}
    {newSource newDestination : Ipv4Address} :
    table.sixToFour source destination = .ok (newSource, newDestination) ↔
      table.ipv4Of? source = some newSource ∧ newDestination = destination.low := by
  unfold sixToFour
  cases table.ipv4Of? source with
  | none => simp
  | some mapped => simp [eq_comm]

/-- Within IPv6 one of the addresses is replaced by the one it is paired with, and the other one
is in no pair. -/
theorem sixToSix_eq_ok_iff {source destination newSource newDestination : Ipv6Address} :
    table.sixToSix source destination = .ok (newSource, newDestination) ↔
      (table.peerOf? source = some newSource ∧ table.peerOf? destination = none ∧
          newDestination = destination) ∨
        table.peerOf? source = none ∧ table.peerOf? destination = some newDestination ∧
          newSource = source := by
  unfold sixToSix
  cases table.peerOf? source <;> cases table.peerOf? destination <;>
    simp [eq_comm, and_comm]

/-! ## The way back -/

/-- Replies find their way back. -/
structure RepliesReturn (table : MappingTable) : Prop where
  /-- A reply to a packet from IPv4 goes back to IPv4, unless the address that stands for the
  packet's source is in a pair within IPv6. -/
  toIpv4 {source destination : Ipv4Address} {newSource newDestination : Ipv6Address}
    (mapped : table.fourToSix source destination = .ok (newSource, newDestination))
    (unpaired : table.peerOf? newSource = none) :
    table.classify newDestination newSource = some .sixToFour ∧
      table.sixToFour newDestination newSource = .ok (destination, source)
  /-- A reply to a packet that went to IPv4 comes back to where the packet was sent from. -/
  fromIpv4 {source destination : Ipv6Address} {newSource newDestination : Ipv4Address}
    (chosen : table.classify source destination = some .sixToFour)
    (mapped : table.sixToFour source destination = .ok (newSource, newDestination)) :
    table.fourToSix newDestination newSource = .ok (destination, source)
  /-- A reply within IPv6 gets the addresses of what it answers. -/
  withinIpv6 {source destination newSource newDestination : Ipv6Address}
    (mapped : table.sixToSix source destination = .ok (newSource, newDestination)) :
    table.sixToSix newDestination newSource = .ok (destination, source)
  /-- A packet and its reply both stay in IPv6 if the address that is in no pair within IPv6 is in
  none across the families and not under the network. -/
  staysIpv6 {source destination newSource newDestination : Ipv6Address}
    (mapped : table.sixToSix source destination = .ok (newSource, newDestination))
    (outside : ∀ address ∈ [source, destination], table.peerOf? address = none →
      table.ipv4Of? address = none ∧ table.covers address = false) :
    table.classify source destination = some .sixToSix ∧
      table.classify newDestination newSource = some .sixToSix

namespace Distinct

theorem reply_toIpv4 (distinct : table.Distinct) {source destination : Ipv4Address}
    {newSource newDestination : Ipv6Address}
    (mapped : table.fourToSix source destination = .ok (newSource, newDestination))
    (unpaired : table.peerOf? newSource = none) :
    table.classify newDestination newSource = some .sixToFour ∧
      table.sixToFour newDestination newSource = .ok (destination, source) := by
  obtain ⟨rfl, found⟩ := fourToSix_eq_ok_iff.mp mapped
  have back := distinct.ipv6Of?_eq_some_iff_ipv4Of?.mp found
  constructor
  · rw [classify_eq_sixToFour_iff, back]
    exact ⟨.inr rfl, unpaired, table.covers_embed source⟩
  · exact sixToFour_eq_ok_iff.mpr ⟨back, rfl⟩

theorem reply_fromIpv4 (distinct : table.Distinct) {source destination : Ipv6Address}
    {newSource newDestination : Ipv4Address}
    (chosen : table.classify source destination = some .sixToFour)
    (mapped : table.sixToFour source destination = .ok (newSource, newDestination)) :
    table.fourToSix newDestination newSource = .ok (destination, source) := by
  obtain ⟨found, rfl⟩ := sixToFour_eq_ok_iff.mp mapped
  obtain ⟨-, -, covered⟩ := classify_eq_sixToFour_iff.mp chosen
  exact fourToSix_eq_ok_iff.mpr
    ⟨(embed_low covered).symm, distinct.ipv6Of?_eq_some_iff_ipv4Of?.mpr found⟩

theorem reply_withinIpv6 (distinct : table.Distinct)
    {source destination newSource newDestination : Ipv6Address}
    (mapped : table.sixToSix source destination = .ok (newSource, newDestination)) :
    table.sixToSix newDestination newSource = .ok (destination, source) := by
  rw [sixToSix_eq_ok_iff] at mapped ⊢
  rcases mapped with ⟨paired, unpaired, rfl⟩ | ⟨unpaired, paired, rfl⟩
  · exact .inr ⟨unpaired, distinct.peerOf?_symm paired, rfl⟩
  · exact .inl ⟨distinct.peerOf?_symm paired, unpaired, rfl⟩

theorem reply_staysIpv6 (distinct : table.Distinct)
    {source destination newSource newDestination : Ipv6Address}
    (mapped : table.sixToSix source destination = .ok (newSource, newDestination))
    (outside : ∀ address ∈ [source, destination], table.peerOf? address = none →
      table.ipv4Of? address = none ∧ table.covers address = false) :
    table.classify source destination = some .sixToSix ∧
      table.classify newDestination newSource = some .sixToSix := by
  simp only [classify_eq_sixToSix_iff]
  rcases sixToSix_eq_ok_iff.mp mapped with ⟨paired, unpaired, rfl⟩ | ⟨unpaired, paired, rfl⟩
  · obtain ⟨unknown, uncovered⟩ := outside _ (.tail _ (.head _)) unpaired
    have back := distinct.peerOf?_symm paired
    rw [paired, back]
    exact ⟨.inr ⟨.inl rfl, unpaired, uncovered⟩, .inl ⟨unpaired, unknown, rfl⟩⟩
  · obtain ⟨unknown, uncovered⟩ := outside _ (.head _) unpaired
    have back := distinct.peerOf?_symm paired
    rw [paired, back]
    exact ⟨.inl ⟨unpaired, unknown, rfl⟩, .inr ⟨.inl rfl, unpaired, uncovered⟩⟩

end Distinct

/-- **Replies find their way back**, whatever was loaded and cleared before. -/
theorem replies_return (loaded : table.Loaded) : table.RepliesReturn where
  toIpv4 := loaded.distinct.reply_toIpv4
  fromIpv4 := loaded.distinct.reply_fromIpv4
  withinIpv6 := loaded.distinct.reply_withinIpv6
  staysIpv6 := loaded.distinct.reply_staysIpv6

/-- An address on the IPv4 side. -/
def remoteIpv4 : Ipv4Address := ⟨198, 51, 100, 7⟩

/-- The address that stands for it in IPv6. -/
def remoteIpv6 : Ipv6Address := ⟨⟨0x64, 0xff9b, 0, 0, 0, 0⟩, remoteIpv4⟩

/-- The host that the table pairs across the families. -/
def hostIpv4 : Ipv4Address := ⟨192, 0, 2, 10⟩

/-- The address of that host in IPv6. -/
def hostIpv6 : Ipv6Address := ⟨⟨0x2001, 0xdb8, 0, 0, 0, 0⟩, ⟨0, 0, 0, 0x10⟩⟩

/-- The internal address that the table pairs within IPv6. -/
def innerIpv6 : Ipv6Address := ⟨⟨0xfd00, 0, 0, 0, 0, 0⟩, ⟨0, 0, 0, 1⟩⟩

/-- The global address of that pair. -/
def outerIpv6 : Ipv6Address := ⟨⟨0x2001, 0xdb8, 1, 0, 0, 0⟩, ⟨0, 0, 0, 1⟩⟩

/-- An address that the table says nothing about. -/
def strangerIpv6 : Ipv6Address := ⟨⟨0x2001, 0xdb8, 9, 0, 0, 0⟩, ⟨0, 0, 0, 1⟩⟩

theorem replies_return_clashing : clashingTable.Loaded ∧
    clashingTable.fourToSix remoteIpv4 hostIpv4 = .ok (remoteIpv6, hostIpv6) ∧
    clashingTable.peerOf? remoteIpv6 = none ∧
    clashingTable.classify hostIpv6 remoteIpv6 = some .sixToFour ∧
    clashingTable.sixToFour hostIpv6 remoteIpv6 = .ok (hostIpv4, remoteIpv4) ∧
    clashingTable.fourToSix remoteIpv4 hostIpv4 = .ok (remoteIpv6, hostIpv6) ∧
    clashingTable.sixToSix innerIpv6 strangerIpv6 = .ok (outerIpv6, strangerIpv6) ∧
    clashingTable.sixToSix strangerIpv6 outerIpv6 = .ok (strangerIpv6, innerIpv6) ∧
    clashingTable.classify innerIpv6 strangerIpv6 = some .sixToSix ∧
    clashingTable.classify strangerIpv6 outerIpv6 = some .sixToSix := by
  have returns := replies_return loaded_clashingTable
  have mapped : clashingTable.fourToSix remoteIpv4 hostIpv4 = .ok (remoteIpv6, hostIpv6) := by
    decide
  have unpaired : clashingTable.peerOf? remoteIpv6 = none := by decide
  obtain ⟨chosen, back⟩ := returns.toIpv4 mapped unpaired
  have forth := returns.fromIpv4 chosen back
  have renamed : clashingTable.sixToSix innerIpv6 strangerIpv6 =
      .ok (outerIpv6, strangerIpv6) := by
    decide
  obtain ⟨stays, replyStays⟩ := returns.staysIpv6 renamed (by decide)
  exact ⟨loaded_clashingTable, mapped, unpaired, chosen, back, forth, renamed,
    returns.withinIpv6 renamed, stays, replyStays⟩

end FamilyGateway.MappingTable
