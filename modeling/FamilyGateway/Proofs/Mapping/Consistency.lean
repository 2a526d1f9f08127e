import FamilyGateway.Proofs.Mapping.Indexed
import Mathlib.Data.Finset.Card

/-!
# Pairs and maps stay in step

A table with maps is loaded and cleared any number of times, and some of the loads stop halfway
(`IndexedTable.Filled`). Whatever the lines were, its maps hold its pairs and nothing else, no
address is in two pairs, and the low bits of its network are clear
(`IndexedTable.filled_consistent`).

It is the maps that are asked whether an address is free, so a pair that is in one of them but
not in the list, or the other way round, would let a later clash through. The maps are those
that the pairs alone would fill (`IndexedTable.filled_iff`), and since no address is in two
pairs (`MappingTable.Loaded.distinct`), nothing that was entered is ever overwritten: the maps
answer what a search of the pairs answers.
-/

set_option autoImplicit false

namespace FamilyGateway

/-- The last four octets of an address are those of its low bits. -/
theorem Ipv6Address.drop_octets (address : Ipv6Address) :
    address.octets.drop 12 = address.low.octets := by
  simp [octets, groups, Wire.bytes16, Ipv4Address.octets]

/-! ## Maps that are filled with pairs -/

namespace MappingTable.Distinct

variable {table : MappingTable}

theorem getElem?_byIpv4 (distinct : table.Distinct) (address : Ipv4Address) :
    table.indexed.byIpv4[address]? = table.ipv6Of? address :=
  getElem?_ofList_rows MappingEntry.ipv6 distinct.ipv4 address

theorem getElem?_byIpv6 (distinct : table.Distinct) (address : Ipv6Address) :
    table.indexed.byIpv6[address]? = table.ipv4Of? address :=
  getElem?_ofList_rows MappingEntry.ipv4 distinct.ipv6 address

theorem nodup_directions (distinct : table.Distinct) :
    ((table.peers.flatMap PeerEntry.directions).map Prod.fst).Nodup := by
  rw [List.map_flatMap]
  exact distinct.peers

theorem getElem?_byPeer (distinct : table.Distinct) (address : Ipv6Address) :
    table.indexed.byPeer[address]? = table.peerOf? address := by
  refine Option.ext fun other => ?_
  rw [indexed, getElem?_ofList_eq_some_iff distinct.nodup_directions,
    distinct.peerOf?_eq_some_iff, List.mem_flatMap]
  constructor
  · rintro ⟨entry, member, side⟩
    rcases List.mem_pair.mp side with same | same
    · cases same
      exact .inl member
    · cases same
      exact .inr member
  · rintro (member | member)
    · exact ⟨_, member, List.mem_cons_self⟩
    · exact ⟨_, member, List.mem_cons_of_mem _ List.mem_cons_self⟩

theorem size_byIpv4 (distinct : table.Distinct) :
    table.indexed.byIpv4.size = table.entries.length := by
  rw [indexed, Std.HashMap.size_ofList, List.length_map]
  exact pairwise_keys (by rw [List.map_map]; exact distinct.ipv4)

theorem size_byIpv6 (distinct : table.Distinct) :
    table.indexed.byIpv6.size = table.entries.length := by
  rw [indexed, Std.HashMap.size_ofList, List.length_map]
  exact pairwise_keys (by rw [List.map_map]; exact distinct.ipv6)

theorem size_byPeer (distinct : table.Distinct) :
    table.indexed.byPeer.size = 2 * table.peers.length := by
  rw [indexed, Std.HashMap.size_ofList (pairwise_keys distinct.nodup_directions),
    List.length_flatMap, Nat.mul_comm]
  show (table.peers.map fun _ => 2).sum = table.peers.length * 2
  rw [List.map_const', List.sum_replicate_nat]

theorem entries_apart (distinct : table.Distinct) : table.entries.Pairwise fun left right =>
    left.ipv4 ≠ right.ipv4 ∧ left.ipv6 ≠ right.ipv6 :=
  (List.pairwise_map.mp distinct.ipv4).and (List.pairwise_map.mp distinct.ipv6)

/-- A pair within IPv6 is there once, since its inner address is. -/
theorem nodup_peers (distinct : table.Distinct) : table.peers.Nodup := by
  refine distinct.peers_apart.imp fun {left right} disjoint same => ?_
  rw [same] at disjoint
  exact disjoint List.mem_cons_self List.mem_cons_self

theorem size_eq_card (distinct : table.Distinct) :
    table.size = table.entries.toFinset.card + table.peers.toFinset.card := by
  rw [size, List.toFinset_card_of_nodup (.of_map _ distinct.ipv4),
    List.toFinset_card_of_nodup distinct.nodup_peers]

end MappingTable.Distinct

namespace IndexedTable

/-! ## What a table holds -/

/-- Pairs and maps say the same. -/
structure Consistent (table : IndexedTable) : Prop where
  /-- The map for IPv4 addresses holds the pairs across the families. -/
  byIpv4_iff (ipv4 : Ipv4Address) (ipv6 : Ipv6Address) :
    table.byIpv4[ipv4]? = some ipv6 ↔ ⟨ipv4, ipv6⟩ ∈ table.entries
  /-- So does the map for IPv6 addresses. -/
  byIpv6_iff (ipv4 : Ipv4Address) (ipv6 : Ipv6Address) :
    table.byIpv6[ipv6]? = some ipv4 ↔ ⟨ipv4, ipv6⟩ ∈ table.entries
  /-- Each of the two undoes the other. -/
  inverse (ipv4 : Ipv4Address) (ipv6 : Ipv6Address) :
    table.byIpv4[ipv4]? = some ipv6 ↔ table.byIpv6[ipv6]? = some ipv4
  /-- Two pairs across the families have no address in common. -/
  entries_apart : table.entries.Pairwise fun left right =>
    left.ipv4 ≠ right.ipv4 ∧ left.ipv6 ≠ right.ipv6
  /-- The map within IPv6 holds the pairs within IPv6 in both directions. -/
  byPeer_iff (address other : Ipv6Address) : table.byPeer[address]? = some other ↔
    ⟨address, other⟩ ∈ table.peers ∨ ⟨other, address⟩ ∈ table.peers
  /-- It undoes itself and leaves no address where it is. -/
  involutive (address other : Ipv6Address) (paired : table.byPeer[address]? = some other) :
    table.byPeer[other]? = some address ∧ other ≠ address
  /-- Two pairs within IPv6 have no address in common, on whichever side. -/
  peers_apart : table.peers.Pairwise fun left right =>
    left.addresses.Disjoint right.addresses
  /-- The maps across the families have as many keys as there are pairs, and the one within IPv6
  has twice as many. -/
  sizes : table.byIpv4.size = table.entries.length ∧
    table.byIpv6.size = table.entries.length ∧ table.byPeer.size = 2 * table.peers.length
  /-- The size counts the pairs. -/
  size : table.size = table.entries.toFinset.card + table.peers.toFinset.card
  /-- The low bits of a configured network are clear. -/
  low_clear (network : Ipv6Address) (configured : table.configured = some network) :
    network.octets.drop 12 = [0, 0, 0, 0]

theorem consistent_indexed {plain : MappingTable} (distinct : plain.Distinct) :
    plain.indexed.Consistent where
  byIpv4_iff ipv4 ipv6 := by
    rw [distinct.getElem?_byIpv4]
    exact distinct.ipv6Of?_eq_some_iff
  byIpv6_iff ipv4 ipv6 := by
    rw [distinct.getElem?_byIpv6]
    exact distinct.ipv4Of?_eq_some_iff
  inverse ipv4 ipv6 := by
    rw [distinct.getElem?_byIpv4, distinct.getElem?_byIpv6]
    exact distinct.ipv6Of?_eq_some_iff_ipv4Of?
  entries_apart := distinct.entries_apart
  byPeer_iff address other := by
    rw [distinct.getElem?_byPeer]
    exact distinct.peerOf?_eq_some_iff
  involutive address other paired := by
    rw [distinct.getElem?_byPeer] at paired ⊢
    exact ⟨distinct.peerOf?_symm paired, distinct.peerOf?_ne paired⟩
  peers_apart := distinct.peers_apart
  sizes := ⟨distinct.size_byIpv4, distinct.size_byIpv6, distinct.size_byPeer⟩
  size := distinct.size_eq_card
  low_clear network configured := by
    obtain ⟨upper, -, rfl⟩ := Option.map_eq_some_iff.mp configured
    exact Ipv6Address.drop_octets _

/-- The table has the pairs and the network of a table without maps, and its maps answer the
lookups of that table. -/
structure Mirrors (table : IndexedTable) (plain : MappingTable) : Prop where
  entries : table.entries = plain.entries
  peers : table.peers = plain.peers
  configured : table.configured = plain.configured.map fun network => .embed network .zero
  byIpv4 (address : Ipv4Address) : table.byIpv4[address]? = plain.ipv6Of? address
  byIpv6 (address : Ipv6Address) : table.byIpv6[address]? = plain.ipv4Of? address
  byPeer (address : Ipv6Address) : table.byPeer[address]? = plain.peerOf? address

/-- **Whatever was loaded, pairs and maps say the same**, and what is said is what a table without
maps says. It does not matter which lines clash, what the included files hold, and whether a load
reaches its end. -/
theorem filled_consistent {table : IndexedTable} (filled : table.Filled) :
    table.Consistent ∧ ∃ plain : MappingTable, plain.Loaded ∧ table.Mirrors plain := by
  obtain ⟨plain, loaded, rfl⟩ := filled_iff.mp filled
  exact ⟨consistent_indexed loaded.distinct, plain, loaded,
    { entries := rfl
      peers := rfl
      configured := rfl
      byIpv4 := loaded.distinct.getElem?_byIpv4
      byIpv6 := loaded.distinct.getElem?_byIpv6
      byPeer := loaded.distinct.getElem?_byPeer }⟩

theorem filled_consistent_clashing : ∃ after,
    (Loader.load MappingTable.loopFiles (MappingTable.clashingLines ++
        [⟨none, 8, .includeFile "loop.conf"⟩,
          ⟨none, 9, .mapStatic "192.0.2.11" "2001:db8::11"⟩])).run ⟨.empty, []⟩ =
      .error ⟨"loop.conf"⟩ after ∧
    after.table.entries.length = 1 ∧ after.table.Filled ∧ after.table.Consistent := by
  obtain ⟨warnings, failed⟩ := MappingTable.load_clashingLines
  have stops := Loader.run_loadWithin .empty [] MappingTable.loopFiles includeDepthLimit
    (MappingTable.clashingLines ++ [⟨none, 8, .includeFile "loop.conf"⟩,
      ⟨none, 9, .mapStatic "192.0.2.11" "2001:db8::11"⟩])
  rw [MappingTable.indexed_empty, ← MappingTable.load, failed] at stops
  have filled := Filled.stop .empty _ _ stops
  exact ⟨_, stops, rfl, filled, (filled_consistent filled).1⟩

end IndexedTable

end FamilyGateway
