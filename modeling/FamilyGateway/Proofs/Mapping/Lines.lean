import FamilyGateway.Proofs.Mapping.Pairs

/-!
# What lines leave in a table

A line asks for a pair across the families, for a pair within IPv6 or for a network, if
its addresses can be read. Of the pairs of one kind each is kept that clashes with none
kept before it (`keepFirst`), and of the networks the last one holds. So what some lines
leave in a table is read off the lists of what they ask for (`MappingTable.holding`).
Taking the lines one after the other leads to the same table
(`MappingTable.holding_singleton`, `MappingTable.holding_append`).

There is one objection at most to a line, and it is what the line is warned about
(`MappingTable.apply_snd_eq_some_iff`). There is none exactly if the line takes effect as
it stands (`MappingTable.apply_snd_eq_none_iff`).
-/

set_option autoImplicit false

namespace FamilyGateway

/-! ## What is kept -/

section Keeping

variable {ρ : Type} (clash : ρ → ρ → Prop) [DecidableRel clash]

/-- Adds rows to those that are kept, except each that clashes with a row kept before it. -/
def keepFirst (kept : List ρ) : List ρ → List ρ
  | [] => kept
  | row :: rows =>
    if ∃ earlier ∈ kept, clash earlier row then keepFirst kept rows
    else keepFirst (kept ++ [row]) rows

theorem keepFirst_append (kept rows more : List ρ) :
    keepFirst clash kept (rows ++ more) = keepFirst clash (keepFirst clash kept rows) more := by
  induction rows generalizing kept with
  | nil => rfl
  | cons row rows ih =>
      simp only [List.cons_append, keepFirst]
      split
      · exact ih kept
      · exact ih (kept ++ [row])

end Keeping

/-- Two pairs across the families have an address in common. -/
def MappingEntry.Clashes (left right : MappingEntry) : Prop :=
  left.ipv4 = right.ipv4 ∨ left.ipv6 = right.ipv6

instance : DecidableRel MappingEntry.Clashes := fun left right =>
  inferInstanceAs (Decidable (left.ipv4 = right.ipv4 ∨ left.ipv6 = right.ipv6))

/-- Two pairs within IPv6 have an address in common, on whichever side. -/
def PeerEntry.Clashes (left right : PeerEntry) : Prop :=
  ∃ address ∈ right.addresses, address ∈ left.addresses

instance : DecidableRel PeerEntry.Clashes := fun left right =>
  inferInstanceAs (Decidable (∃ address ∈ right.addresses, address ∈ left.addresses))

theorem PeerEntry.clashes_iff {kept : PeerEntry} {inner outer : Ipv6Address} :
    kept.Clashes ⟨inner, outer⟩ ↔ inner ∈ kept.addresses ∨ outer ∈ kept.addresses := by
  change (∃ address ∈ [inner, outer], address ∈ kept.addresses) ↔ _
  simp only [List.mem_cons, List.not_mem_nil, or_false, exists_eq_or_imp, exists_eq_left]

/-! ## What is asked for -/

namespace DirectiveKind

/-- The pair across the families that a line asks for, if its addresses can be read. -/
def pair? : DirectiveKind → Option MappingEntry
  | mapStatic ipv4 ipv6 =>
    (Ipv4Address.ofString? ipv4).bind fun ipv4 =>
      (Ipv6Address.ofString? ipv6).map fun ipv6 => ⟨ipv4, ipv6⟩
  | _ => none

/-- The pair within IPv6 that a line asks for, if its addresses can be read. -/
def peer? : DirectiveKind → Option PeerEntry
  | map66Static inner outer =>
    (Ipv6Address.ofString? inner).bind fun inner =>
      (Ipv6Address.ofString? outer).map fun outer => ⟨inner, outer⟩
  | _ => none

/-- The address whose network a line asks for, if it can be read. -/
def networkAddress? : DirectiveKind → Option Ipv6Address
  | mappingPrefix address => Ipv6Address.ofString? address
  | _ => none

end DirectiveKind

namespace MappingTable

variable {table : MappingTable} {kind : DirectiveKind} {warning : LoadWarning}

/-- What some lines leave in a table: the pairs that clash with none kept before them, those within
IPv6 only if their addresses differ, and the network of the last address that can be read. -/
def holding (table : MappingTable) (lines : List DirectiveKind) : MappingTable where
  entries := keepFirst MappingEntry.Clashes table.entries (lines.filterMap DirectiveKind.pair?)
  peers := keepFirst PeerEntry.Clashes table.peers
    ((lines.filterMap DirectiveKind.peer?).filter fun entry => entry.inner ≠ entry.outer)
  configured :=
    ((lines.filterMap DirectiveKind.networkAddress?).getLast?.map Ipv6Address.network).or
      table.configured

theorem holding_append (table : MappingTable) (lines more : List DirectiveKind) :
    table.holding (lines ++ more) = (table.holding lines).holding more := by
  simp only [holding, List.filterMap_append, List.filter_append, keepFirst_append,
    List.getLast?_append, Option.map_or, Option.or_assoc]

/-- The network of the last address that could be read is that address, its low bits cleared. -/
theorem networkAddress_holding {lines : List DirectiveKind} {address : Ipv6Address}
    (last : (lines.filterMap DirectiveKind.networkAddress?).getLast? = some address) :
    (table.holding lines).networkAddress = address.masked := by
  simp only [networkAddress, network, holding, last]
  rfl

/-! ## Lines one by one -/

theorem insert?_eq (ipv4 : Ipv4Address) (ipv6 : Ipv6Address) :
    table.insert? ipv4 ipv6 =
      if ∃ kept ∈ table.entries, kept.Clashes ⟨ipv4, ipv6⟩ then none
      else some { table with entries := table.entries ++ [⟨ipv4, ipv6⟩] } := by
  have taken : ((table.ipv6Of? ipv4).isSome ∨ (table.ipv4Of? ipv6).isSome) ↔
      ∃ kept ∈ table.entries, kept.Clashes ⟨ipv4, ipv6⟩ := by
    simp only [Option.isSome_iff_ne_none, ne_eq, ipv6Of?_eq_none_iff, ipv4Of?_eq_none_iff, not_not,
      List.mem_map, MappingEntry.Clashes, and_or_left, exists_or]
  simp only [insert?, taken]

theorem insertPeer?_eq (inner outer : Ipv6Address) :
    table.insertPeer? inner outer =
      if inner = outer ∨ ∃ kept ∈ table.peers, kept.Clashes ⟨inner, outer⟩ then none
      else some { table with peers := table.peers ++ [⟨inner, outer⟩] } := by
  have taken : ((table.peerOf? inner).isSome ∨ (table.peerOf? outer).isSome) ↔
      ∃ kept ∈ table.peers, kept.Clashes ⟨inner, outer⟩ := by
    simp only [Option.isSome_iff_ne_none, ne_eq, peerOf?_eq_none_iff, not_not, List.mem_flatMap,
      PeerEntry.clashes_iff, and_or_left, exists_or]
  simp only [insertPeer?, taken]

/-- What a line for a pair across the families does, in terms of the pair that it asks for. -/
theorem apply_mapStatic (ipv4 ipv6 : String) :
    table.apply (.mapStatic ipv4 ipv6) =
      match (DirectiveKind.mapStatic ipv4 ipv6).pair? with
      | none => (table, some (.invalidAddress "map-static" ipv4 ipv6))
      | some entry =>
        if ∃ kept ∈ table.entries, kept.Clashes entry then
          (table, some (.duplicate entry.ipv4 entry.ipv6))
        else ({ table with entries := table.entries ++ [entry] }, none) := by
  simp only [apply, DirectiveKind.pair?]
  cases Ipv4Address.ofString? ipv4 with
  | none => rfl
  | some ipv4 =>
      cases Ipv6Address.ofString? ipv6 with
      | none => rfl
      | some ipv6 =>
          simp only [Option.bind_some, Option.map_some, insert?_eq]
          by_cases taken : ∃ kept ∈ table.entries, kept.Clashes ⟨ipv4, ipv6⟩
          · simp only [if_pos taken]
          · simp only [if_neg taken]

/-- What a line for a pair within IPv6 does, in terms of the pair that it asks for. -/
theorem apply_map66Static (inner outer : String) :
    table.apply (.map66Static inner outer) =
      match (DirectiveKind.map66Static inner outer).peer? with
      | none => (table, some (.invalidAddress "map66-static" inner outer))
      | some entry =>
        if entry.inner = entry.outer ∨ ∃ kept ∈ table.peers, kept.Clashes entry then
          (table, some (.duplicatePeer entry.inner entry.outer))
        else ({ table with peers := table.peers ++ [entry] }, none) := by
  simp only [apply, DirectiveKind.peer?]
  cases Ipv6Address.ofString? inner with
  | none => rfl
  | some inner =>
      cases Ipv6Address.ofString? outer with
      | none => rfl
      | some outer =>
          simp only [Option.bind_some, Option.map_some, insertPeer?_eq]
          by_cases taken : inner = outer ∨ ∃ kept ∈ table.peers, kept.Clashes ⟨inner, outer⟩
          · simp only [if_pos taken]
          · simp only [if_neg taken]

theorem apply_mappingPrefix (address : String) :
    table.apply (.mappingPrefix address) =
      match (DirectiveKind.mappingPrefix address).networkAddress? with
      | none => (table, some (.invalidNetwork address))
      | some address =>
        (table.configure address.network,
          if address.low = .zero then none else some (.truncatedNetwork address)) := by
  simp only [apply, DirectiveKind.networkAddress?]
  cases Ipv6Address.ofString? address <;> rfl

/-- What a line does is what it leaves by itself. -/
theorem holding_singleton (table : MappingTable) (kind : DirectiveKind) :
    table.holding [kind] = (table.apply kind).1 := by
  cases kind with
  | mapStatic ipv4 ipv6 =>
      rw [apply_mapStatic]
      cases asked : (DirectiveKind.mapStatic ipv4 ipv6).pair? with
      | none => simp only [holding, List.filterMap_cons, asked]; rfl
      | some entry =>
          simp only [holding, List.filterMap_cons, asked, keepFirst]
          split <;> rfl
  | map66Static inner outer =>
      rw [apply_map66Static]
      cases asked : (DirectiveKind.map66Static inner outer).peer? with
      | none => simp only [holding, List.filterMap_cons, asked]; rfl
      | some entry =>
          have alone : table.holding [.map66Static inner outer] = { table with
              peers := keepFirst PeerEntry.Clashes table.peers
                ([entry].filter fun entry => entry.inner ≠ entry.outer) } := by
            simp only [holding, List.filterMap_cons, asked]
            rfl
          rw [alone]
          by_cases same : entry.inner = entry.outer
          · simp [same, keepFirst]
          · by_cases taken : ∃ kept ∈ table.peers, kept.Clashes entry
            · simp [same, taken, keepFirst]
            · simp [same, taken, keepFirst]
  | mappingPrefix address =>
      rw [apply_mappingPrefix]
      cases asked : (DirectiveKind.mappingPrefix address).networkAddress? with
      | none => simp only [holding, List.filterMap_cons, asked]; rfl
      | some address => simp only [holding, List.filterMap_cons, asked]; rfl
  | includeFile path => rfl
  | malformed keyword expected => rfl
  | unknown keyword => rfl

/-! ## What there is to say -/

/-- A line takes effect as it stands: its pair can be read and clashes with none that is kept, or
its network is given with its low bits clear. -/
inductive TakesEffect (table : MappingTable) : DirectiveKind → Prop where
  | entry {ipv4 ipv6 : String} {entry : MappingEntry}
      (asked : (DirectiveKind.mapStatic ipv4 ipv6).pair? = some entry)
      (free : ¬∃ kept ∈ table.entries, kept.Clashes entry) :
      TakesEffect table (.mapStatic ipv4 ipv6)
  | peer {inner outer : String} {entry : PeerEntry}
      (asked : (DirectiveKind.map66Static inner outer).peer? = some entry)
      (differ : entry.inner ≠ entry.outer)
      (free : ¬∃ kept ∈ table.peers, kept.Clashes entry) :
      TakesEffect table (.map66Static inner outer)
  | network {text : String} {address : Ipv6Address}
      (asked : (DirectiveKind.mappingPrefix text).networkAddress? = some address)
      (clear : address.low = .zero) : TakesEffect table (.mappingPrefix text)

/-- What there is to say about a line that includes no file. -/
inductive Objection (table : MappingTable) : DirectiveKind → LoadWarning → Prop where
  | entryAddress {ipv4 ipv6 : String}
      (unread : (DirectiveKind.mapStatic ipv4 ipv6).pair? = none) :
      Objection table (.mapStatic ipv4 ipv6) (.invalidAddress "map-static" ipv4 ipv6)
  | entryTaken {ipv4 ipv6 : String} {entry : MappingEntry}
      (asked : (DirectiveKind.mapStatic ipv4 ipv6).pair? = some entry)
      (taken : ∃ kept ∈ table.entries, kept.Clashes entry) :
      Objection table (.mapStatic ipv4 ipv6) (.duplicate entry.ipv4 entry.ipv6)
  | peerAddress {inner outer : String}
      (unread : (DirectiveKind.map66Static inner outer).peer? = none) :
      Objection table (.map66Static inner outer) (.invalidAddress "map66-static" inner outer)
  | peerTaken {inner outer : String} {entry : PeerEntry}
      (asked : (DirectiveKind.map66Static inner outer).peer? = some entry)
      (taken : entry.inner = entry.outer ∨ ∃ kept ∈ table.peers, kept.Clashes entry) :
      Objection table (.map66Static inner outer) (.duplicatePeer entry.inner entry.outer)
  | networkAddress {text : String}
      (unread : (DirectiveKind.mappingPrefix text).networkAddress? = none) :
      Objection table (.mappingPrefix text) (.invalidNetwork text)
  | networkTruncated {text : String} {address : Ipv6Address}
      (asked : (DirectiveKind.mappingPrefix text).networkAddress? = some address)
      (low : address.low ≠ .zero) :
      Objection table (.mappingPrefix text) (.truncatedNetwork address)
  | operandCount {keyword : String} {expected : Nat} :
      Objection table (.malformed keyword expected) (.operandCount keyword expected)
  | unknownKeyword {keyword : String} :
      Objection table (.unknown keyword) (.unknownKeyword keyword)

/-- A line is warned about exactly if there is an objection to it. -/
theorem apply_snd_eq_some_iff :
    (table.apply kind).2 = some warning ↔ table.Objection kind warning := by
  constructor
  · intro said
    cases kind with
    | mapStatic ipv4 ipv6 =>
        rw [apply_mapStatic] at said
        split at said
        next unread => cases said; exact .entryAddress unread
        next entry asked =>
          split at said
          next taken => cases said; exact .entryTaken asked taken
          next => cases said
    | map66Static inner outer =>
        rw [apply_map66Static] at said
        split at said
        next unread => cases said; exact .peerAddress unread
        next entry asked =>
          split at said
          next taken => cases said; exact .peerTaken asked taken
          next => cases said
    | mappingPrefix text =>
        rw [apply_mappingPrefix] at said
        split at said
        next unread => cases said; exact .networkAddress unread
        next address asked =>
          dsimp only at said
          split at said
          next => cases said
          next low => cases said; exact .networkTruncated asked low
    | includeFile path => cases said
    | malformed keyword expected => cases said; exact .operandCount
    | unknown keyword => cases said; exact .unknownKeyword
  · intro objection
    cases objection with
    | entryAddress unread => rw [apply_mapStatic, unread]
    | entryTaken asked taken => rw [apply_mapStatic, asked]; exact congrArg Prod.snd (if_pos taken)
    | peerAddress unread => rw [apply_map66Static, unread]
    | peerTaken asked taken => rw [apply_map66Static, asked]; exact congrArg Prod.snd (if_pos taken)
    | networkAddress unread => rw [apply_mappingPrefix, unread]
    | networkTruncated asked low => rw [apply_mappingPrefix, asked]; exact if_neg low
    | operandCount => rfl
    | unknownKeyword => rfl

/-- A line that includes no file takes effect as it stands exactly if it is not warned about. -/
theorem apply_snd_eq_none_iff (plain : ∀ path, kind ≠ .includeFile path) :
    (table.apply kind).2 = none ↔ table.TakesEffect kind := by
  constructor
  · intro silent
    cases kind with
    | mapStatic ipv4 ipv6 =>
        rw [apply_mapStatic] at silent
        split at silent
        next => cases silent
        next entry asked =>
          split at silent
          next => cases silent
          next free => exact .entry asked free
    | map66Static inner outer =>
        rw [apply_map66Static] at silent
        split at silent
        next => cases silent
        next entry asked =>
          split at silent
          next => cases silent
          next free =>
            obtain ⟨differ, free⟩ := not_or.mp free
            exact .peer asked differ free
    | mappingPrefix text =>
        rw [apply_mappingPrefix] at silent
        split at silent
        next => cases silent
        next address asked =>
          dsimp only at silent
          split at silent
          next clear => exact .network asked clear
          next => cases silent
    | includeFile path => exact absurd rfl (plain path)
    | malformed keyword expected => cases silent
    | unknown keyword => cases silent
  · intro effective
    cases effective with
    | entry asked free => rw [apply_mapStatic, asked]; exact congrArg Prod.snd (if_neg free)
    | peer asked differ free =>
        rw [apply_map66Static, asked]
        exact congrArg Prod.snd (if_neg (not_or.mpr ⟨differ, free⟩))
    | network asked clear => rw [apply_mappingPrefix, asked]; exact if_pos clear

end MappingTable

end FamilyGateway
