import FamilyGateway.Proofs.Mapping.Pairs

/-!
# A table with its maps beside it

A table can keep hash maps beside its pairs, one for each direction across the families and one
for both directions within IPv6, so that no lookup has to walk the pairs (`IndexedTable`). Pairs
and maps are states of their own. A pair that is added has to be entered into each of its
maps, and it is the maps that are asked whether an address is free. The network is an
address, whose low bits have to be cleared when it is configured.

Such a table is loaded by a program that changes it line by line, follows includes as it meets
them, and stops where they are nested too deep, with everything that was loaded until then
(`Loader.loadWithin`). The pairs that it ends with are those of a table without maps, and each map
holds what these pairs put there (`Loader.run_loadWithin`). This is carried by one lemma for each
kind of pair: the two tables refuse the same pairs, and entering a pair that is not refused into
the maps is filling them with the pairs anew (`MappingTable.index_insert`,
`MappingTable.index_insertPeer`).
-/

set_option autoImplicit false

namespace FamilyGateway

/-! ## Tables with maps -/

/-- A mapping table with hash maps for its lookups. -/
structure IndexedTable where
  entries : List MappingEntry
  /-- The IPv6 address paired with each IPv4 address. -/
  byIpv4 : Std.HashMap Ipv4Address Ipv6Address
  /-- The IPv4 address paired with each IPv6 address. -/
  byIpv6 : Std.HashMap Ipv6Address Ipv4Address
  peers : List PeerEntry
  /-- The other side of each address in a pair within IPv6. -/
  byPeer : Std.HashMap Ipv6Address Ipv6Address
  /-- The network for IPv4 addresses, if one was configured. -/
  configured : Option Ipv6Address

/-- A table without pairs and without a network. -/
def IndexedTable.empty : IndexedTable := ⟨[], ∅, ∅, [], ∅, none⟩

/-- How many pairs of either kind there are. -/
def IndexedTable.size (table : IndexedTable) : Nat := table.entries.length + table.peers.length

/-- What loading works on: the table, and the warnings so far, each with its directive. -/
structure Loading where
  table : IndexedTable
  warnings : List (Directive × LoadWarning)

/-- A program that loads lines into a table. -/
abbrev Loader : Type → Type := EStateM IncludeTooDeep Loading

namespace Loader

/-- Warns about a directive. -/
def warn (directive : Directive) (warning : LoadWarning) : Loader Unit :=
  modify fun loading => { loading with warnings := loading.warnings ++ [(directive, warning)] }

/-- Changes the table. -/
def change (update : IndexedTable → IndexedTable) : Loader Unit :=
  modify fun loading => { loading with table := update loading.table }

/-- Adds a pair across the families, unless one of its addresses is in a map. -/
def insert (directive : Directive) (ipv4 : Ipv4Address) (ipv6 : Ipv6Address) : Loader Unit := do
  let table := (← get).table
  if table.byIpv4.contains ipv4 ∨ table.byIpv6.contains ipv6 then
    warn directive (.duplicate ipv4 ipv6)
  else
    change fun table => { table with
      byIpv4 := table.byIpv4.insert ipv4 ipv6
      byIpv6 := table.byIpv6.insert ipv6 ipv4
      entries := table.entries ++ [⟨ipv4, ipv6⟩] }

/-- Adds a pair within IPv6, unless its addresses are equal or one is in the map. -/
def insertPeer (directive : Directive) (inner outer : Ipv6Address) : Loader Unit := do
  let table := (← get).table
  if inner = outer ∨ table.byPeer.contains inner ∨ table.byPeer.contains outer then
    warn directive (.duplicatePeer inner outer)
  else
    change fun table => { table with
      byPeer := (table.byPeer.insert inner outer).insert outer inner
      peers := table.peers ++ [⟨inner, outer⟩] }

/-- Configures a network, and warns if some of its low bits were set. -/
def configure (directive : Directive) (address : Ipv6Address) : Loader Unit := do
  if address.masked ≠ address then warn directive (.truncatedNetwork address)
  change fun table => { table with configured := some address.masked }

/-- Takes up a line that includes no file. -/
def line (directive : Directive) : DirectiveKind → Loader Unit
  | .mapStatic ipv4 ipv6 =>
    match Ipv4Address.ofString? ipv4, Ipv6Address.ofString? ipv6 with
    | some ipv4, some ipv6 => insert directive ipv4 ipv6
    | _, _ => warn directive (.invalidAddress "map-static" ipv4 ipv6)
  | .map66Static inner outer =>
    match Ipv6Address.ofString? inner, Ipv6Address.ofString? outer with
    | some inner, some outer => insertPeer directive inner outer
    | _, _ => warn directive (.invalidAddress "map66-static" inner outer)
  | .mappingPrefix address =>
    match Ipv6Address.ofString? address with
    | some address => configure directive address
    | none => warn directive (.invalidNetwork address)
  | .includeFile _ => pure ()
  | .malformed keyword expected => warn directive (.operandCount keyword expected)
  | .unknown keyword => warn directive (.unknownKeyword keyword)

mutual

/-- Loads lines one after the other, following includes down the given number of levels. -/
def loadWithin (files : FileReader) (levels : Nat) : List Directive → Loader Unit
  | [] => pure ()
  | directive :: rest => do
    takeUp files levels directive
    loadWithin files levels rest
termination_by directives => (levels, directives.length)

/-- Takes up a line, or the lines of the file that it includes. -/
def takeUp (files : FileReader) (levels : Nat) (directive : Directive) : Loader Unit :=
  match directive.kind with
  | .includeFile path =>
    match levels with
    | 0 => throw ⟨path⟩
    | below + 1 =>
      match Directive.ofFile files path with
      | .ok included => loadWithin files below included
      | .error error => warn directive (.unreadable error)
  | kind => line directive kind
termination_by (levels, 0)

end

/-- Loads lines into a table. -/
def load (files : FileReader) (directives : List Directive) : Loader Unit :=
  loadWithin files includeDepthLimit directives

end Loader

/-- The tables with maps that loading and clearing lead to, in any order and any number of times,
whether a load reaches its end or stops. -/
inductive IndexedTable.Filled : IndexedTable → Prop where
  | empty : Filled .empty
  | load {table : IndexedTable} {after : Loading} (filled : Filled table) (files : FileReader)
      (directives : List Directive)
      (ends : (Loader.load files directives).run ⟨table, []⟩ = .ok () after) :
      Filled after.table
  | stop {table : IndexedTable} {error : IncludeTooDeep} {after : Loading}
      (filled : Filled table) (files : FileReader) (directives : List Directive)
      (stops : (Loader.load files directives).run ⟨table, []⟩ = .error error after) :
      Filled after.table
  | clear {table : IndexedTable} (filled : Filled table) : Filled .empty

/-! ## Filling the maps anew -/

/-- Both directions of a pair within IPv6. -/
def PeerEntry.directions (entry : PeerEntry) : List (Ipv6Address × Ipv6Address) :=
  [(entry.inner, entry.outer), (entry.outer, entry.inner)]

namespace MappingTable

variable {table grown : MappingTable}

/-- The table with maps that are filled with its pairs in the order in which they were added. -/
def indexed (table : MappingTable) : IndexedTable where
  entries := table.entries
  byIpv4 := .ofList (table.entries.map fun entry => (entry.ipv4, entry.ipv6))
  byIpv6 := .ofList (table.entries.map fun entry => (entry.ipv6, entry.ipv4))
  peers := table.peers
  byPeer := .ofList (table.peers.flatMap PeerEntry.directions)
  configured := table.configured.map fun network => .embed network .zero

theorem indexed_empty : empty.indexed = .empty := by
  simp [indexed, empty, IndexedTable.empty]

theorem contains_byIpv4 (table : MappingTable) (address : Ipv4Address) :
    table.indexed.byIpv4.contains address = (table.ipv6Of? address).isSome :=
  contains_ofList_eq_isSome (by rw [ipv6Of?_eq_none_iff, List.map_map]; rfl)

theorem contains_byIpv6 (table : MappingTable) (address : Ipv6Address) :
    table.indexed.byIpv6.contains address = (table.ipv4Of? address).isSome :=
  contains_ofList_eq_isSome (by rw [ipv4Of?_eq_none_iff, List.map_map]; rfl)

theorem contains_byPeer (table : MappingTable) (address : Ipv6Address) :
    table.indexed.byPeer.contains address = (table.peerOf? address).isSome :=
  contains_ofList_eq_isSome (by rw [peerOf?_eq_none_iff, List.map_flatMap]; rfl)

/-- A pair across the families that is added is entered into two of the maps. -/
theorem index_insert {ipv4 : Ipv4Address} {ipv6 : Ipv6Address}
    (added : table.insert? ipv4 ipv6 = some grown) :
    grown.indexed = { table.indexed with
      byIpv4 := table.indexed.byIpv4.insert ipv4 ipv6
      byIpv6 := table.indexed.byIpv6.insert ipv6 ipv4
      entries := table.indexed.entries ++ [⟨ipv4, ipv6⟩] } := by
  unfold insert? at added
  split at added
  next => cases added
  next =>
    cases added
    simp only [indexed, List.map_append, List.map_singleton,
      Std.HashMap.ofList_eq_insertMany_empty, Std.HashMap.insertMany_append,
      Std.HashMap.insertMany_list_singleton]

/-- A pair within IPv6 that is added is entered into the third map in both directions. -/
theorem index_insertPeer {inner outer : Ipv6Address}
    (added : table.insertPeer? inner outer = some grown) :
    grown.indexed = { table.indexed with
      byPeer := (table.indexed.byPeer.insert inner outer).insert outer inner
      peers := table.indexed.peers ++ [⟨inner, outer⟩] } := by
  unfold insertPeer? at added
  split at added
  next => cases added
  next =>
    cases added
    simp only [indexed, List.flatMap_append, List.flatMap_singleton, PeerEntry.directions,
      Std.HashMap.ofList_eq_insertMany_empty, Std.HashMap.insertMany_append,
      Std.HashMap.insertMany_cons, Std.HashMap.insertMany_nil]

end MappingTable

/-! ## Loading -/

namespace Loader

variable (table : MappingTable) (warnings : List (Directive × LoadWarning))
  (directive : Directive)

/-- What a program comes to that takes up a line: the table with the line's effect, and what there
is to say about it. -/
def lineEnding (effect : MappingTable × Option LoadWarning) :
    EStateM.Result IncludeTooDeep Loading Unit :=
  .ok () ⟨effect.1.indexed, warnings ++ effect.2.toList.map (directive, ·)⟩

/-- A line that has its effect and is not warned about. -/
theorem lineEnding_silent : lineEnding warnings directive (table, none) =
    .ok () ⟨table.indexed, warnings⟩ := by
  rw [lineEnding, Option.toList_none, List.map_nil, List.append_nil]

/-- Both tables take a pair across the families, or both refuse it. -/
theorem run_insert (ipv4 : Ipv4Address) (ipv6 : Ipv6Address) :
    (insert directive ipv4 ipv6).run ⟨table.indexed, warnings⟩ =
      lineEnding warnings directive
        (match table.insert? ipv4 ipv6 with
        | some grown => (grown, none)
        | none => (table, some (.duplicate ipv4 ipv6))) := by
  show (if table.indexed.byIpv4.contains ipv4 ∨ table.indexed.byIpv6.contains ipv6 then
    warn directive (.duplicate ipv4 ipv6) else _ : Loader Unit).run _ = _
  rw [table.contains_byIpv4, table.contains_byIpv6]
  by_cases taken : (table.ipv6Of? ipv4).isSome ∨ (table.ipv4Of? ipv6).isSome
  · have refused : table.insert? ipv4 ipv6 = none := if_pos taken
    rw [if_pos taken, refused]
    rfl
  · have added : table.insert? ipv4 ipv6 = some _ := if_neg taken
    rw [if_neg taken, added, lineEnding_silent, MappingTable.index_insert added]
    rfl

/-- Both tables take a pair within IPv6, or both refuse it. -/
theorem run_insertPeer (inner outer : Ipv6Address) :
    (insertPeer directive inner outer).run ⟨table.indexed, warnings⟩ =
      lineEnding warnings directive
        (match table.insertPeer? inner outer with
        | some grown => (grown, none)
        | none => (table, some (.duplicatePeer inner outer))) := by
  show (if inner = outer ∨ table.indexed.byPeer.contains inner ∨
      table.indexed.byPeer.contains outer then
    warn directive (.duplicatePeer inner outer) else _ : Loader Unit).run _ = _
  rw [table.contains_byPeer, table.contains_byPeer]
  by_cases taken : inner = outer ∨ (table.peerOf? inner).isSome ∨ (table.peerOf? outer).isSome
  · have refused : table.insertPeer? inner outer = none := if_pos taken
    rw [if_pos taken, refused]
    rfl
  · have added : table.insertPeer? inner outer = some _ := if_neg taken
    rw [if_neg taken, added, lineEnding_silent, MappingTable.index_insertPeer added]
    rfl

/-- The low bits of the address that is kept are clear, whatever they were. -/
theorem run_configure (address : Ipv6Address) :
    (configure directive address).run ⟨table.indexed, warnings⟩ =
      lineEnding warnings directive (table.configure address.network,
        if address.low = .zero then none else some (.truncatedNetwork address)) := by
  obtain ⟨network, low⟩ := address
  have same : Ipv6Address.masked ⟨network, low⟩ = ⟨network, low⟩ ↔ low = .zero := by
    rw [Ipv6Address.masked, Ipv6Address.mk.injEq, eq_comm (a := Ipv4Address.zero)]
    exact and_iff_right rfl
  by_cases clear : low = .zero
  · rw [configure, if_neg (not_not.mpr (same.mpr clear)), if_pos clear, lineEnding_silent]
    rfl
  · rw [configure, if_pos (same.not.mpr clear), if_neg clear]
    rfl

/-- A line does the same to a table with maps and to one without. -/
theorem run_line (kind : DirectiveKind) :
    (line directive kind).run ⟨table.indexed, warnings⟩ =
      lineEnding warnings directive (table.apply kind) := by
  cases kind with
  | mapStatic ipv4 ipv6 =>
      simp only [line, MappingTable.apply]
      cases Ipv4Address.ofString? ipv4 with
      | none => rfl
      | some first =>
          cases Ipv6Address.ofString? ipv6 with
          | none => rfl
          | some second => exact run_insert table warnings directive first second
  | map66Static inner outer =>
      simp only [line, MappingTable.apply]
      cases Ipv6Address.ofString? inner with
      | none => rfl
      | some first =>
          cases Ipv6Address.ofString? outer with
          | none => rfl
          | some second => exact run_insertPeer table warnings directive first second
  | mappingPrefix address =>
      simp only [line, MappingTable.apply]
      cases Ipv6Address.ofString? address with
      | none => rfl
      | some found => exact run_configure table warnings directive found
  | includeFile path => exact (lineEnding_silent table warnings directive).symm
  | malformed keyword expected => rfl
  | unknown keyword => rfl

/-- How a program ends that loads what a table without maps is loaded with. -/
def ending (outcome : MappingTable.LoadOutcome) : EStateM.Result IncludeTooDeep Loading Unit :=
  match outcome.failure with
  | none => .ok () ⟨outcome.table.indexed, warnings ++ outcome.warnings⟩
  | some error => .error error ⟨outcome.table.indexed, warnings ++ outcome.warnings⟩

variable {outcome : MappingTable.LoadOutcome}

theorem ending_of_done (done : outcome.failure = none) :
    ending warnings outcome = .ok () ⟨outcome.table.indexed, warnings ++ outcome.warnings⟩ := by
  rw [ending, done]

theorem ending_of_failed {error : IncludeTooDeep} (failed : outcome.failure = some error) :
    ending warnings outcome =
      .error error ⟨outcome.table.indexed, warnings ++ outcome.warnings⟩ := by
  rw [ending, failed]

theorem ending_after (outcome : MappingTable.LoadOutcome)
    (more : List (Directive × LoadWarning)) :
    ending warnings (outcome.after more) = ending (warnings ++ more) outcome := by
  simp only [ending, MappingTable.LoadOutcome.after, List.append_assoc]

/-- **A load does the same to a table with maps and to one without**, whether it reaches its end
or stops at an include. -/
theorem run_loadWithin (files : FileReader) (levels : Nat) (directives : List Directive) :
    (loadWithin files levels directives).run ⟨table.indexed, warnings⟩ =
      ending warnings (MappingTable.loadWithin files levels table directives) := by
  fun_induction MappingTable.loadWithin files levels table directives generalizing warnings with
  | case1 =>
      rw [loadWithin, ending, List.append_nil]
      rfl
  | case2 table directive rest path named =>
      rw [loadWithin, EStateM.run_bind, takeUp, named, ending, List.append_nil]
      rfl
  | case3 table directive rest path named below error unreadable ih =>
      rw [loadWithin, EStateM.run_bind, takeUp, named, ending_after, ← ih]
      simp only [unreadable]
      rfl
  | case4 table directive rest path named below included readable inner error failed ih =>
      rw [loadWithin, EStateM.run_bind, takeUp, named, ending_of_failed warnings failed]
      simp only [readable, (ih warnings).trans (ending_of_failed warnings failed)]
      rfl
  | case5 table directive rest path named below included readable inner done ihIncluded ihRest =>
      rw [loadWithin, EStateM.run_bind, takeUp, named, ending_after, ← ihRest]
      simp only [readable, (ihIncluded warnings).trans (ending_of_done warnings done)]
      rfl
  | case6 levels table directive rest next warning plain applied ih =>
      have taken : takeUp files levels directive = line directive directive.kind := by
        rw [takeUp]
        split
        next path named => exact absurd named (plain path)
        next => rfl
      rw [loadWithin, EStateM.run_bind, taken, run_line, applied, ending_after, ← ih]
      rfl

end Loader

/-! ## All tables that are filled -/

namespace IndexedTable

/-- The tables with maps that are reached are those that are reached without maps, with maps that
are filled with their pairs. -/
theorem filled_iff {table : IndexedTable} :
    table.Filled ↔ ∃ plain : MappingTable, plain.Loaded ∧ plain.indexed = table := by
  constructor
  · intro filled
    induction filled with
    | empty => exact ⟨_, .empty, MappingTable.indexed_empty⟩
    | load filled files directives ends ih =>
        obtain ⟨plain, loaded, rfl⟩ := ih
        refine ⟨_, .load loaded files directives, ?_⟩
        rw [Loader.load, Loader.run_loadWithin, Loader.ending] at ends
        split at ends
        next => cases ends; rfl
        next => cases ends
    | stop filled files directives stops ih =>
        obtain ⟨plain, loaded, rfl⟩ := ih
        refine ⟨_, .load loaded files directives, ?_⟩
        rw [Loader.load, Loader.run_loadWithin, Loader.ending] at stops
        split at stops
        next => cases stops
        next => cases stops; rfl
    | clear filled ih => exact ⟨_, .empty, MappingTable.indexed_empty⟩
  · rintro ⟨plain, loaded, rfl⟩
    induction loaded with
    | empty =>
        rw [MappingTable.indexed_empty]
        exact .empty
    | @load table loaded files directives ih =>
        have run := Loader.run_loadWithin table [] files includeDepthLimit directives
        cases failed : (MappingTable.load files table directives).failure with
        | none => exact ih.load files directives (run.trans (Loader.ending_of_done [] failed))
        | some error =>
            exact ih.stop files directives (run.trans (Loader.ending_of_failed [] failed))
    | clear loaded ih =>
        rw [MappingTable.indexed_empty]
        exact .empty

end IndexedTable

end FamilyGateway
