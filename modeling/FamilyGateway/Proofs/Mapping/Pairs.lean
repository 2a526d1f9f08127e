import FamilyGateway.Mapping.Load
import FamilyGateway.Proofs.Rows
import Mathlib.Data.List.Lattice
import Mathlib.Data.List.Nodup
import Mathlib.Data.List.Pairwise

/-!
# Every address is in one pair of a kind

A line that would put an address into a second pair of one kind has no effect, whatever
stands before it (`MappingTable.Distinct.apply`), so after any lines, whether a load
reaches their end or fails at an include, no address occurs twice
(`MappingTable.Distinct.loadWithin`). `MappingTable.Loaded` are the tables that any
course of loading and clearing leads to.

In such a table a lookup finds a pair exactly if there is one, on whichever side the
address stands, and so the lookups of either direction undo one another
(`MappingTable.Distinct.ipv6Of?_eq_some_iff_ipv4Of?`) and the one within IPv6 undoes
itself (`MappingTable.Distinct.peerOf?_symm`).
-/

set_option autoImplicit false

namespace FamilyGateway

/-! ## Pairs within IPv6 -/

namespace PeerEntry

/-- The addresses of a pair within IPv6. -/
def addresses (entry : PeerEntry) : List Ipv6Address := [entry.inner, entry.outer]

/-- The other side of an address in a pair is the address that it is paired with. -/
theorem otherSide?_eq_some_iff {entry : PeerEntry} {address other : Ipv6Address} :
    entry.otherSide? address = some other ↔
      entry = ⟨address, other⟩ ∨ entry = ⟨other, address⟩ := by
  obtain ⟨inner, outer⟩ := entry
  simp only [otherSide?, PeerEntry.mk.injEq]
  by_cases first : inner = address
  · rw [if_pos first, Option.some_inj]
    constructor
    · exact fun same => .inl ⟨first, same⟩
    · rintro (⟨-, same⟩ | ⟨same, second⟩)
      · exact same
      · exact second.trans (first.symm.trans same)
  · by_cases second : outer = address
    · rw [if_neg first, if_pos second, Option.some_inj]
      constructor
      · exact fun same => .inr ⟨same, second⟩
      · rintro (⟨same, -⟩ | ⟨same, -⟩)
        · exact absurd same first
        · exact same
    · rw [if_neg first, if_neg second]
      constructor
      · exact fun absent => nomatch absent
      · rintro (⟨same, -⟩ | ⟨-, same⟩)
        · exact absurd same first
        · exact absurd same second

theorem mem_of_otherSide? {entry : PeerEntry} {address other : Ipv6Address}
    (side : entry.otherSide? address = some other) : address ∈ entry.addresses := by
  rcases otherSide?_eq_some_iff.mp side with rfl | rfl
  · exact List.mem_cons_self
  · exact List.mem_cons_of_mem _ List.mem_cons_self

theorem otherSide?_eq_none_iff {entry : PeerEntry} {address : Ipv6Address} :
    entry.otherSide? address = none ↔ address ∉ entry.addresses := by
  simp only [otherSide?, addresses, List.mem_cons, List.not_mem_nil, or_false, not_or]
  split
  next first => simp [first]
  next first =>
    split
    next second => simp [second]
    next second => exact ⟨fun _ => ⟨Ne.symm first, Ne.symm second⟩, fun _ => rfl⟩

end PeerEntry

namespace MappingTable

variable {table grown : MappingTable} {files : FileReader}

theorem ipv6Of?_eq_none_iff {address : Ipv4Address} :
    table.ipv6Of? address = none ↔ address ∉ table.entries.map MappingEntry.ipv4 := by
  simp [ipv6Of?]

theorem ipv4Of?_eq_none_iff {address : Ipv6Address} :
    table.ipv4Of? address = none ↔ address ∉ table.entries.map MappingEntry.ipv6 := by
  simp [ipv4Of?]

theorem peerOf?_eq_none_iff {address : Ipv6Address} :
    table.peerOf? address = none ↔ address ∉ table.peers.flatMap PeerEntry.addresses := by
  simp [peerOf?, PeerEntry.otherSide?_eq_none_iff]

/-- No address occurs twice among the pairs of one kind. -/
structure Distinct (table : MappingTable) : Prop where
  ipv4 : (table.entries.map MappingEntry.ipv4).Nodup
  ipv6 : (table.entries.map MappingEntry.ipv6).Nodup
  peers : (table.peers.flatMap PeerEntry.addresses).Nodup

namespace Distinct

theorem ipv6Of?_eq_some_iff (distinct : table.Distinct) {ipv4 : Ipv4Address}
    {ipv6 : Ipv6Address} : table.ipv6Of? ipv4 = some ipv6 ↔ ⟨ipv4, ipv6⟩ ∈ table.entries := by
  simp only [ipv6Of?, Option.map_eq_some_iff, find?_key_eq_some_iff distinct.ipv4]
  constructor
  · rintro ⟨entry, ⟨member, rfl⟩, rfl⟩
    exact member
  · exact fun member => ⟨_, ⟨member, rfl⟩, rfl⟩

theorem ipv4Of?_eq_some_iff (distinct : table.Distinct) {ipv4 : Ipv4Address}
    {ipv6 : Ipv6Address} : table.ipv4Of? ipv6 = some ipv4 ↔ ⟨ipv4, ipv6⟩ ∈ table.entries := by
  simp only [ipv4Of?, Option.map_eq_some_iff, find?_key_eq_some_iff distinct.ipv6]
  constructor
  · rintro ⟨entry, ⟨member, rfl⟩, rfl⟩
    exact member
  · exact fun member => ⟨_, ⟨member, rfl⟩, rfl⟩

/-- The lookups of the two directions across the families undo one another. -/
theorem ipv6Of?_eq_some_iff_ipv4Of? (distinct : table.Distinct) {ipv4 : Ipv4Address}
    {ipv6 : Ipv6Address} : table.ipv6Of? ipv4 = some ipv6 ↔ table.ipv4Of? ipv6 = some ipv4 :=
  distinct.ipv6Of?_eq_some_iff.trans distinct.ipv4Of?_eq_some_iff.symm

/-- No pair within IPv6 is an address with itself. -/
theorem inner_ne_outer (distinct : table.Distinct) {entry : PeerEntry}
    (member : entry ∈ table.peers) : entry.inner ≠ entry.outer := by
  have once := (List.nodup_flatMap.mp distinct.peers).1 entry member
  simpa [PeerEntry.addresses] using once

/-- No two pairs within IPv6 have an address in common, on whichever side. -/
theorem peers_apart (distinct : table.Distinct) :
    table.peers.Pairwise fun left right => left.addresses.Disjoint right.addresses :=
  (List.nodup_flatMap.mp distinct.peers).2

/-- Pairs within IPv6 that have an address in common are one pair. -/
theorem eq_of_shared (distinct : table.Distinct) {left right : PeerEntry} {address : Ipv6Address}
    (member : left ∈ table.peers) (also : right ∈ table.peers)
    (on : address ∈ left.addresses) (shared : address ∈ right.addresses) : left = right := by
  have symmetric : Std.Symm fun left right : PeerEntry =>
      left.addresses.Disjoint right.addresses := ⟨fun _ _ => List.Disjoint.symm⟩
  by_contra apart
  exact distinct.peers_apart.forall member also apart on shared

/-- A lookup within IPv6 finds exactly the address on the other side of a pair. -/
theorem peerOf?_eq_some_iff (distinct : table.Distinct) {address other : Ipv6Address} :
    table.peerOf? address = some other ↔
      ⟨address, other⟩ ∈ table.peers ∨ ⟨other, address⟩ ∈ table.peers := by
  have sound : ∀ {found : Ipv6Address}, table.peerOf? address = some found →
      ∃ entry ∈ table.peers, entry.otherSide? address = some found :=
    List.exists_of_findSome?_eq_some
  -- The pair that is found and the one that is asked for share the address, so they are one.
  have complete : ∀ entry ∈ table.peers, entry.otherSide? address = some other →
      table.peerOf? address = some other := by
    intro entry member side
    have on := PeerEntry.mem_of_otherSide? side
    cases found : table.peerOf? address with
    | none =>
        exact absurd (List.mem_flatMap.mpr ⟨entry, member, on⟩) (peerOf?_eq_none_iff.mp found)
    | some reached =>
        obtain ⟨holder, also, held⟩ := sound found
        have same := distinct.eq_of_shared also member (PeerEntry.mem_of_otherSide? held) on
        rw [← held, same, side]
  constructor
  · intro found
    obtain ⟨entry, member, side⟩ := sound found
    rcases PeerEntry.otherSide?_eq_some_iff.mp side with rfl | rfl
    · exact .inl member
    · exact .inr member
  · rintro (member | member)
    · exact complete _ member (PeerEntry.otherSide?_eq_some_iff.mpr (.inl rfl))
    · exact complete _ member (PeerEntry.otherSide?_eq_some_iff.mpr (.inr rfl))

/-- The lookup within IPv6 undoes itself. -/
theorem peerOf?_symm (distinct : table.Distinct) {address other : Ipv6Address}
    (paired : table.peerOf? address = some other) : table.peerOf? other = some address := by
  rw [distinct.peerOf?_eq_some_iff] at paired ⊢
  exact paired.symm

/-- No address is paired with itself. -/
theorem peerOf?_ne (distinct : table.Distinct) {address other : Ipv6Address}
    (paired : table.peerOf? address = some other) : other ≠ address := by
  rcases distinct.peerOf?_eq_some_iff.mp paired with member | member
  · exact (distinct.inner_ne_outer member).symm
  · exact distinct.inner_ne_outer member

/-! ## Loading -/

theorem empty : MappingTable.empty.Distinct :=
  ⟨List.nodup_nil, List.nodup_nil, List.nodup_nil⟩

theorem insert (distinct : table.Distinct) {ipv4 : Ipv4Address} {ipv6 : Ipv6Address}
    (added : table.insert? ipv4 ipv6 = some grown) : grown.Distinct := by
  unfold insert? at added
  split at added
  next => cases added
  next free =>
    cases added
    simp only [Option.isSome_iff_ne_none, not_or, not_not, ipv6Of?_eq_none_iff,
      ipv4Of?_eq_none_iff] at free
    refine ⟨?_, ?_, distinct.peers⟩
    · rw [List.map_append]
      exact distinct.ipv4.append (List.nodup_singleton ipv4) (List.disjoint_singleton.mpr free.1)
    · rw [List.map_append]
      exact distinct.ipv6.append (List.nodup_singleton ipv6) (List.disjoint_singleton.mpr free.2)

theorem insertPeer (distinct : table.Distinct) {inner outer : Ipv6Address}
    (added : table.insertPeer? inner outer = some grown) : grown.Distinct := by
  unfold insertPeer? at added
  split at added
  next => cases added
  next free =>
    cases added
    simp only [Option.isSome_iff_ne_none, not_or, not_not, peerOf?_eq_none_iff] at free
    obtain ⟨apart, freeInner, freeOuter⟩ := free
    refine ⟨distinct.ipv4, distinct.ipv6, ?_⟩
    rw [List.flatMap_append, List.flatMap_singleton]
    refine distinct.peers.append (List.nodup_cons.mpr ⟨?_, List.nodup_singleton outer⟩) ?_
    · rwa [List.mem_singleton]
    · rw [PeerEntry.addresses, List.disjoint_cons_right]
      exact ⟨freeInner, List.disjoint_singleton.mpr freeOuter⟩

/-- No line puts an address into a second pair. -/
theorem apply (distinct : table.Distinct) (kind : DirectiveKind) :
    (table.apply kind).1.Distinct := by
  cases kind with
  | mapStatic ipv4 ipv6 =>
      simp only [MappingTable.apply]
      split
      next =>
        split
        next added => exact distinct.insert added
        next => exact distinct
      next => exact distinct
  | map66Static inner outer =>
      simp only [MappingTable.apply]
      split
      next =>
        split
        next added => exact distinct.insertPeer added
        next => exact distinct
      next => exact distinct
  | mappingPrefix address =>
      simp only [MappingTable.apply]
      split
      next => exact ⟨distinct.ipv4, distinct.ipv6, distinct.peers⟩
      next => exact distinct
  | includeFile path => exact distinct
  | malformed keyword expected => exact distinct
  | unknown keyword => exact distinct

end Distinct

/-- What no line destroys, no load destroys, whether it fails or not. -/
theorem loadWithin_preserves {property : MappingTable → Prop}
    (line : ∀ table kind, property table → property (table.apply kind).1)
    (files : FileReader) (levels : Nat) (table : MappingTable) (directives : List Directive)
    (holds : property table) : property (loadWithin files levels table directives).table := by
  fun_induction loadWithin files levels table directives with
  | case1 => exact holds
  | case2 => exact holds
  | case3 _ _ _ _ _ _ _ _ ih => exact ih holds
  | case4 _ _ _ _ _ _ _ _ _ _ _ ih => exact ih holds
  | case5 _ _ _ _ _ _ _ _ _ _ ihIncluded ihRest => exact ihRest (ihIncluded holds)
  | case6 _ table directive _ _ _ _ applied ih =>
      have step := line table directive.kind holds
      rw [applied] at step
      exact ih step

/-- A line that includes no file takes effect before the ones after it. -/
theorem loadWithin_cons {directive : Directive}
    (plain : ∀ path, directive.kind ≠ .includeFile path) (levels : Nat) (table : MappingTable)
    (rest : List Directive) :
    loadWithin files levels table (directive :: rest) =
      (loadWithin files levels (table.apply directive.kind).1 rest).after
        ((table.apply directive.kind).2.toList.map (directive, ·)) := by
  rw [loadWithin]
  split
  next path named => exact absurd named (plain path)
  next => rfl

/-- Lines that include no file take effect one after the other. -/
theorem loadWithin_append (files : FileReader) {lines : List Directive}
    (plain : ∀ directive ∈ lines, ∀ path, directive.kind ≠ .includeFile path) (levels : Nat)
    (table : MappingTable) (rest : List Directive) :
    ∃ warnings, loadWithin files levels table (lines ++ rest) =
      (loadWithin files levels
        (lines.foldl (fun table directive => (table.apply directive.kind).1) table)
        rest).after warnings := by
  induction lines generalizing table with
  | nil => exact ⟨[], rfl⟩
  | cons directive lines ih =>
      obtain ⟨here, later⟩ := List.forall_mem_cons.mp plain
      obtain ⟨warnings, loaded⟩ := ih later (table.apply directive.kind).1
      refine ⟨(table.apply directive.kind).2.toList.map (directive, ·) ++ warnings, ?_⟩
      rw [List.cons_append, loadWithin_cons here, loaded, List.foldl_cons]
      simp only [LoadOutcome.after, List.append_assoc]

/-- A file that begins by including itself makes every load fail that includes it. -/
theorem loadWithin_cycle {path : String} {self : Directive} {more : List Directive}
    (reads : Directive.ofFile files path = .ok (self :: more))
    (again : self.kind = .includeFile path) (levels : Nat) (table : MappingTable)
    {directive : Directive} (named : directive.kind = .includeFile path)
    (rest : List Directive) :
    loadWithin files levels table (directive :: rest) = ⟨table, [], some ⟨path⟩⟩ := by
  induction levels generalizing directive rest with
  | zero => rw [loadWithin, named]
  | succ below ih =>
      rw [loadWithin, named]
      simp only [reads, ih again more]

/-- The tables that loading and clearing lead to, in any order and any number of times. -/
inductive Loaded : MappingTable → Prop where
  | empty : Loaded .empty
  | load {table : MappingTable} (loaded : Loaded table) (files : FileReader)
      (directives : List Directive) : Loaded (table.load files directives).table
  | clear {table : MappingTable} (loaded : Loaded table) : Loaded .empty

/-- No address is ever in two pairs of one kind. -/
theorem Loaded.distinct (loaded : table.Loaded) : table.Distinct := by
  induction loaded with
  | empty => exact .empty
  | load loaded files directives ih =>
      exact loadWithin_preserves (fun _ kind distinct => distinct.apply kind) files _ _ _ ih
  | clear loaded ih => exact .empty

/-! ## A load that fails -/

/-- A file that includes itself. -/
def loopFiles : FileReader := fun path =>
  if path = "loop.conf" then .ok "include loop.conf\n" else .error (.system .notFound)

/-- Lines that clash on either side, pair an address with itself, or take a global address for
an internal one. -/
def clashingLines : List Directive :=
  [⟨none, 1, .mappingPrefix "64:ff9b::1:2"⟩, ⟨none, 2, .mapStatic "192.0.2.10" "2001:db8::10"⟩,
    ⟨none, 3, .mapStatic "192.0.2.10" "2001:db8::99"⟩,
    ⟨none, 4, .mapStatic "192.0.2.99" "2001:db8::10"⟩,
    ⟨none, 5, .map66Static "fd00::1" "2001:db8:1::1"⟩,
    ⟨none, 6, .map66Static "2001:db8:1::1" "fd00::2"⟩,
    ⟨none, 7, .map66Static "fd00::3" "fd00::3"⟩]

/-- What a failing include leaves of these lines and one more. -/
def clashingTable : MappingTable where
  entries := [⟨⟨192, 0, 2, 10⟩, ⟨⟨0x2001, 0xdb8, 0, 0, 0, 0⟩, ⟨0, 0, 0, 0x10⟩⟩⟩]
  peers := [⟨⟨⟨0xfd00, 0, 0, 0, 0, 0⟩, ⟨0, 0, 0, 1⟩⟩, ⟨⟨0x2001, 0xdb8, 1, 0, 0, 0⟩, ⟨0, 0, 0, 1⟩⟩⟩]
  configured := some ⟨0x64, 0xff9b, 0, 0, 0, 0⟩

theorem load_clashingLines : ∃ warnings,
    empty.load loopFiles (clashingLines ++ [⟨none, 8, .includeFile "loop.conf"⟩,
        ⟨none, 9, .mapStatic "192.0.2.11" "2001:db8::11"⟩]) =
      ⟨clashingTable, warnings, some ⟨"loop.conf"⟩⟩ := by
  have plain : ∀ directive ∈ clashingLines, ∀ path, directive.kind ≠ .includeFile path := by
    simp [clashingLines]
  have effect : clashingLines.foldl (fun table directive => (table.apply directive.kind).1) empty =
      clashingTable := by
    decide +kernel
  have reads : Directive.ofFile loopFiles "loop.conf" =
      .ok [⟨some "loop.conf", 1, .includeFile "loop.conf"⟩] := rfl
  obtain ⟨warnings, loaded⟩ := loadWithin_append loopFiles plain includeDepthLimit empty
    [⟨none, 8, .includeFile "loop.conf"⟩, ⟨none, 9, .mapStatic "192.0.2.11" "2001:db8::11"⟩]
  refine ⟨warnings ++ [], ?_⟩
  rw [load, loaded, effect, loadWithin_cycle reads rfl _ _ rfl]
  rfl

/-- The table is reached although the load fails, also when something was loaded and cleared
before. -/
theorem loaded_clashingTable : clashingTable.Loaded := by
  obtain ⟨warnings, failed⟩ := load_clashingLines
  have loaded := Loaded.load (.clear (.load .empty loopFiles clashingLines)) loopFiles
    (clashingLines ++ [⟨none, 8, .includeFile "loop.conf"⟩,
      ⟨none, 9, .mapStatic "192.0.2.11" "2001:db8::11"⟩])
  rw [failed] at loaded
  exact loaded

end MappingTable

end FamilyGateway
