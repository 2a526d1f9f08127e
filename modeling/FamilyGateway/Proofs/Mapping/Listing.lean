import FamilyGateway.Mapping.Render
import FamilyGateway.Proofs.Address.ReadingBack
import FamilyGateway.Proofs.Config.Composition
import FamilyGateway.Proofs.Mapping.Consistency
import FamilyGateway.Proofs.Mapping.Lines

/-!
# A printed table is read back

A table is printed as the lines of `MappingTable.lines`, so parsing its text gives what
these lines mean (`MappingTable.parse_render`). Every address is what its text spells and
no address is in two pairs of a kind, so all the pairs are taken one after the other
without a warning (`MappingTable.Distinct.accepts`). The network alone is not: with its
length behind it, it spells no address (`MappingTable.ofString?_networkText`).

Tables with the same text have the same pairs and the same network
(`MappingTable.render_eq_iff`). The tables that can be reached are exactly those in which
no address is in two pairs of a kind (`MappingTable.loaded_iff_distinct`).
-/

set_option autoImplicit false

namespace FamilyGateway

open Directive (Line numbered)

/-! ## The lines of a table -/

/-- What asks for a pair across the families. -/
def MappingEntry.request (entry : MappingEntry) : DirectiveKind :=
  .mapStatic entry.ipv4.text entry.ipv6.text

/-- What asks for a pair within IPv6. -/
def PeerEntry.request (entry : PeerEntry) : DirectiveKind :=
  .map66Static entry.inner.text entry.outer.text

/-- The line that asks for a pair across the families. -/
def MappingEntry.line (entry : MappingEntry) : Line where
  tokens := ["map-static", entry.ipv4.text, entry.ipv6.text]
  kind := entry.request
  proper := by
    simp only [List.forall_mem_cons]
    exact ⟨Text.isToken_of_all (by decide) (by decide), entry.ipv4.isToken_text,
      entry.ipv6.isToken_text, fun _ absent => nomatch absent⟩
  spoken silent := absurd (silent _ rfl) (by decide)
  meant _ := .mapStatic _ _

theorem MappingEntry.chars_line (entry : MappingEntry) :
    entry.line.chars = s!"map-static {entry.ipv4.text} {entry.ipv6.text}\n".toList := by
  simp [line, Line.chars, Text.written, toString]

/-- The line that asks for a pair within IPv6. -/
def PeerEntry.line (entry : PeerEntry) : Line where
  tokens := ["map66-static", entry.inner.text, entry.outer.text]
  kind := entry.request
  proper := by
    simp only [List.forall_mem_cons]
    exact ⟨Text.isToken_of_all (by decide) (by decide), entry.inner.isToken_text,
      entry.outer.isToken_text, fun _ absent => nomatch absent⟩
  spoken silent := absurd (silent _ rfl) (by decide)
  meant _ := .map66Static _ _

theorem PeerEntry.chars_line (entry : PeerEntry) :
    entry.line.chars = s!"map66-static {entry.inner.text} {entry.outer.text}\n".toList := by
  simp [line, Line.chars, Text.written, toString]

namespace MappingTable

variable {table grown : MappingTable}

/-- The network with its length, as it is printed. -/
def networkText (table : MappingTable) : String :=
  s!"{table.networkAddress.text}/{networkLength}"

theorem toList_networkText (table : MappingTable) :
    table.networkText.toList = table.networkAddress.text.toList ++ "/96".toList := by
  rw [networkText, ← String.toList_append]
  exact congrArg String.toList String.append_assoc

/-- The line for the network. -/
def networkLine (table : MappingTable) : Line where
  tokens := ["mapping-prefix", table.networkText]
  kind := .mappingPrefix table.networkText
  proper := by
    simp only [List.forall_mem_cons, toList_networkText]
    exact ⟨Text.isToken_of_all (by decide) (by decide),
      table.networkAddress.isToken_text.append (Text.isToken_of_all (by decide) (by decide)),
      fun _ absent => nomatch absent⟩
  spoken silent := absurd (silent _ rfl) (by decide)
  meant _ := .mappingPrefix _

theorem chars_networkLine (table : MappingTable) : table.networkLine.chars =
    s!"mapping-prefix {table.networkAddress.text}/{networkLength}\n".toList := by
  simp [networkLine, networkText, Line.chars, Text.written, toString]

/-- The lines as which a table is printed. -/
def lines (table : MappingTable) : List Line :=
  table.networkLine :: (table.entries.map MappingEntry.line ++ table.peers.map PeerEntry.line)

theorem render_eq (table : MappingTable) :
    table.render = String.ofList (table.lines.flatMap Line.chars) := by
  rw [← String.toList_inj, String.toList_ofList]
  simp only [render, lines, String.toList_join, List.cons_append, List.flatMap_cons,
    List.flatMap_append, List.flatMap_map, chars_networkLine, MappingEntry.chars_line,
    PeerEntry.chars_line]

/-- What the lines of a printed table mean. -/
def listing (table : MappingTable) : List DirectiveKind :=
  .mappingPrefix table.networkText ::
    (table.entries.map MappingEntry.request ++ table.peers.map PeerEntry.request)

/-- The text of a table says what its lines mean, in this order. -/
theorem parse_render (file : Option String) (table : MappingTable) :
    Directive.parse file table.render = numbered file 1 table.listing := by
  rw [render_eq, Directive.parse_chars]
  simp only [lines, listing, List.map_cons, List.map_append, List.map_map]
  rfl

/-! ## Tables that are printed alike -/

theorem pair?_request (entry : MappingEntry) : entry.request.pair? = some entry := by
  simp only [MappingEntry.request, DirectiveKind.pair?, Ipv4Address.ofString?_text,
    Ipv6Address.ofString?_text, Option.bind_some, Option.map_some]

theorem peer?_request (entry : PeerEntry) : entry.request.peer? = some entry := by
  simp only [PeerEntry.request, DirectiveKind.peer?, Ipv6Address.ofString?_text, Option.bind_some,
    Option.map_some]

/-- The lines of a table ask for its pairs across the families, -/
theorem filterMap_pair?_listing (table : MappingTable) :
    table.listing.filterMap DirectiveKind.pair? = table.entries := by
  have asked : DirectiveKind.pair? ∘ MappingEntry.request = some := funext pair?_request
  have other : DirectiveKind.pair? ∘ PeerEntry.request = fun _ => none := rfl
  rw [listing, List.filterMap_cons_none rfl, List.filterMap_append, List.filterMap_map,
    List.filterMap_map, asked, other, List.filterMap_some, List.filterMap_none, List.append_nil]

/-- and for its pairs within IPv6. -/
theorem filterMap_peer?_listing (table : MappingTable) :
    table.listing.filterMap DirectiveKind.peer? = table.peers := by
  have asked : DirectiveKind.peer? ∘ PeerEntry.request = some := funext peer?_request
  have other : DirectiveKind.peer? ∘ MappingEntry.request = fun _ => none := rfl
  rw [listing, List.filterMap_cons_none rfl, List.filterMap_append, List.filterMap_map,
    List.filterMap_map, asked, other, List.filterMap_some, List.filterMap_none, List.nil_append]

theorem networkAddress_of_networkText {left right : MappingTable}
    (same : left.networkText = right.networkText) : left.networkAddress = right.networkAddress := by
  have spelled := congrArg String.toList same
  rw [toList_networkText, toList_networkText, List.append_cancel_right_eq, String.toList_inj]
    at spelled
  have read := congrArg Ipv6Address.ofString? spelled
  rwa [Ipv6Address.ofString?_text, Ipv6Address.ofString?_text, Option.some_inj] at read

/-- **Tables are printed alike exactly if they have the same pairs and the same network.** -/
theorem render_eq_iff {left right : MappingTable} :
    left.render = right.render ↔ left.entries = right.entries ∧ left.peers = right.peers ∧
      left.networkAddress = right.networkAddress := by
  constructor
  · intro same
    have alike : left.listing = right.listing := by
      rw [← Directive.map_kind_numbered none 1 left.listing, ← parse_render, same, parse_render,
        Directive.map_kind_numbered]
    refine ⟨?_, ?_, networkAddress_of_networkText ?_⟩
    · rw [← filterMap_pair?_listing, alike, filterMap_pair?_listing]
    · rw [← filterMap_peer?_listing, alike, filterMap_peer?_listing]
    · simp only [listing, List.cons.injEq, DirectiveKind.mappingPrefix.injEq] at alike
      exact alike.1
  · rintro ⟨entries, peers, networkAddress⟩
    simp only [render, entries, peers, networkAddress]

/-! ## Loading the lines of a table -/

/-- Lines that take effect one after the other without a warning, and the table they lead to. -/
inductive Accepts : MappingTable → List DirectiveKind → MappingTable → Prop where
  | nothing (table : MappingTable) : Accepts table [] table
  | line {table next grown : MappingTable} {kind : DirectiveKind} {kinds : List DirectiveKind}
      (plain : ∀ path, kind ≠ .includeFile path) (effect : table.apply kind = (next, none))
      (rest : Accepts next kinds grown) : Accepts table (kind :: kinds) grown

theorem Accepts.append {between : MappingTable} {kinds more : List DirectiveKind}
    (first : table.Accepts kinds between) (second : between.Accepts more grown) :
    table.Accepts (kinds ++ more) grown := by
  induction first with
  | nothing table => exact second
  | line plain effect rest ih => exact .line plain effect (ih second)

/-- Accepted lines are loaded without a warning and without a failure. -/
theorem Accepts.loadWithin {kinds : List DirectiveKind} (accepts : table.Accepts kinds grown)
    (files : FileReader) (levels : Nat) (file : Option String) (number : Nat) :
    loadWithin files levels table (numbered file number kinds) = ⟨grown, [], none⟩ := by
  induction accepts generalizing number with
  | nothing table => rw [numbered, List.zipIdx_nil, List.map_nil, MappingTable.loadWithin]
  | line plain effect rest ih =>
      rw [numbered, List.zipIdx_cons, List.map_cons, loadWithin_cons plain]
      dsimp only
      rw [effect]
      exact congrArg (LoadOutcome.after · []) (ih (number + 1))

/-- Rows are accepted one after the other if each is accepted that clashes with none before it. -/
theorem accepts_rows {ρ : Type} {request : ρ → DirectiveKind} {clash : ρ → ρ → Prop}
    {rows : List ρ} (holding : List ρ → MappingTable) (kept : List ρ)
    (plain : ∀ row path, request row ≠ .includeFile path)
    (effect : ∀ kept, ∀ row ∈ rows, (¬∃ earlier ∈ kept, clash earlier row) →
      (holding kept).apply (request row) = (holding (kept ++ [row]), none))
    (apart : (kept ++ rows).Pairwise fun earlier row => ¬clash earlier row) :
    (holding kept).Accepts (rows.map request) (holding (kept ++ rows)) := by
  induction rows generalizing kept with
  | nil =>
      rw [List.append_nil]
      exact .nothing _
  | cons row rows ih =>
      have free : ¬∃ earlier ∈ kept, clash earlier row := by
        rintro ⟨earlier, member, clashes⟩
        exact (List.pairwise_append.mp apart).2.2 earlier member row List.mem_cons_self clashes
      rw [List.append_cons] at apart ⊢
      exact .line (plain row) (effect kept row List.mem_cons_self free)
        (ih _ (fun kept row member => effect kept row (List.mem_cons_of_mem _ member)) apart)

namespace Distinct

theorem accepts_entries (distinct : table.Distinct) (configured : Option Network96) :
    Accepts ⟨[], [], configured⟩ (table.entries.map MappingEntry.request)
      ⟨table.entries, [], configured⟩ := by
  have apart : table.entries.Pairwise fun kept entry => ¬kept.Clashes entry :=
    distinct.entries_apart.imp fun apart clash => clash.elim apart.1 apart.2
  refine accepts_rows (fun entries => ⟨entries, [], configured⟩) [] (fun _ _ same => nomatch same)
    (fun kept entry _ free => ?_) apart
  rw [MappingEntry.request, apply_mapStatic, ← MappingEntry.request, pair?_request]
  exact if_neg free

theorem accepts_peers (distinct : table.Distinct) (entries : List MappingEntry)
    (configured : Option Network96) :
    Accepts ⟨entries, [], configured⟩ (table.peers.map PeerEntry.request)
      ⟨entries, table.peers, configured⟩ := by
  have apart : table.peers.Pairwise fun kept entry => ¬kept.Clashes entry :=
    distinct.peers_apart.imp fun apart ⟨_, on, shared⟩ => apart shared on
  refine accepts_rows (fun peers => ⟨entries, peers, configured⟩) [] (fun _ _ same => nomatch same)
    (fun kept entry member free => ?_) apart
  rw [PeerEntry.request, apply_map66Static, ← PeerEntry.request, peer?_request]
  exact if_neg (not_or.mpr ⟨distinct.inner_ne_outer member, free⟩)

/-- Where no address is in two pairs of a kind, the lines of all pairs are accepted. -/
theorem accepts (distinct : table.Distinct) (configured : Option Network96) :
    Accepts ⟨[], [], configured⟩
      (table.entries.map MappingEntry.request ++ table.peers.map PeerEntry.request)
      ⟨table.entries, table.peers, configured⟩ :=
  (distinct.accepts_entries configured).append (distinct.accepts_peers table.entries configured)

end Distinct

/-- **The tables that can be reached** are those in which no address is in two pairs of a kind:
the others never are, and these are by the lines for their pairs and for their network. -/
theorem loaded_iff_distinct : table.Loaded ↔ table.Distinct := by
  refine ⟨Loaded.distinct, fun distinct => ?_⟩
  have network : ∃ kinds, empty.Accepts kinds ⟨[], [], table.configured⟩ := by
    cases table.configured with
    | none => exact ⟨[], .nothing empty⟩
    | some network =>
        refine ⟨[.mappingPrefix (Ipv6Address.embed network .zero).text],
          .line (fun _ same => nomatch same) ?_ (.nothing _)⟩
        simp only [MappingTable.apply, Ipv6Address.ofString?_text]
        rfl
  obtain ⟨kinds, configures⟩ := network
  have loaded := Loaded.load .empty (fun _ => .error (.system .notFound))
    (numbered none 1 (kinds ++
      (table.entries.map MappingEntry.request ++ table.peers.map PeerEntry.request)))
  rwa [load, (configures.append (distinct.accepts _)).loadWithin] at loaded

/-! ## Reading back -/

/-- With its length behind it, the network spells no address. -/
theorem ofString?_networkText (table : MappingTable) :
    Ipv6Address.ofString? table.networkText = none := by
  refine Ipv6Address.ofString?_of_mem_slash ?_
  rw [toList_networkText]
  exact List.mem_append_right _ (by decide)

/-- The line for the network has no effect and is warned about. -/
theorem apply_networkLine (other : MappingTable) :
    other.apply (.mappingPrefix table.networkText) =
      (other, some (.invalidNetwork table.networkText)) := by
  simp only [MappingTable.apply, ofString?_networkText]

/-- The text of a table leads back to its pairs, and to one warning. -/
theorem load_render (distinct : table.Distinct) (files : FileReader) (file : Option String) :
    load files .empty (Directive.parse file table.render) =
      ⟨⟨table.entries, table.peers, none⟩,
        [(⟨file, 1, .mappingPrefix table.networkText⟩, .invalidNetwork table.networkText)],
        none⟩ := by
  have pairs := (distinct.accepts none).loadWithin files includeDepthLimit file 2
  rw [parse_render, load, listing, numbered, List.zipIdx_cons, List.map_cons,
    loadWithin_cons fun _ same => DirectiveKind.noConfusion same]
  dsimp only
  rw [apply_networkLine]
  exact congrArg (LoadOutcome.after · _) pairs

/-- A table and its text. -/
structure ReadsBack (table : MappingTable) : Prop where
  /-- The text says one network, the pairs across the families and the pairs within IPv6, in the
  order of the table. -/
  parsed (file : Option String) : Directive.parse file table.render = numbered file 1
    (.mappingPrefix s!"{table.networkAddress.text}/{networkLength}" ::
      (table.entries.map (fun entry => .mapStatic entry.ipv4.text entry.ipv6.text) ++
        table.peers.map fun entry => .map66Static entry.inner.text entry.outer.text))
  /-- Loading it succeeds, with the same pairs and no warning but the one about the network. -/
  loaded (files : FileReader) (file : Option String) :
    MappingTable.load files .empty (Directive.parse file table.render) =
      ⟨⟨table.entries, table.peers, none⟩,
        [(⟨file, 1, .mappingPrefix table.networkText⟩,
          .invalidNetwork table.networkText)], none⟩
  /-- Every lookup finds what it finds in the table, -/
  ipv6Of? (files : FileReader) (file : Option String) (address : Ipv4Address) :
    (load files .empty (Directive.parse file table.render)).table.ipv6Of? address =
      table.ipv6Of? address
  /-- in the other direction -/
  ipv4Of? (files : FileReader) (file : Option String) (address : Ipv6Address) :
    (load files .empty (Directive.parse file table.render)).table.ipv4Of? address =
      table.ipv4Of? address
  /-- and within IPv6. -/
  peerOf? (files : FileReader) (file : Option String) (address : Ipv6Address) :
    (load files .empty (Directive.parse file table.render)).table.peerOf? address =
      table.peerOf? address
  /-- Tables with other pairs have another text. -/
  differs {other : MappingTable}
    (different : other.entries ≠ table.entries ∨ other.peers ≠ table.peers) :
    other.render ≠ table.render

/-- **A printed table is read back**: all its pairs, in their order and without a warning, and
nothing but the network is lost. -/
theorem render_reads_back (loaded : table.Loaded) : table.ReadsBack := by
  have read := load_render loaded.distinct
  constructor
  case parsed =>
    intro file
    exact parse_render file table
  case loaded => exact read
  case ipv6Of? =>
    intro files file address
    rw [read]
    rfl
  case ipv4Of? =>
    intro files file address
    rw [read]
    rfl
  case peerOf? =>
    intro files file address
    rw [read]
    rfl
  case differs =>
    intro other different same
    obtain ⟨entries, peers, -⟩ := render_eq_iff.mp same
    exact different.elim (· entries) (· peers)

/-- A table with an IPv4-mapped address, one below `::/96` and one with two runs of zeros. -/
def listedTable : MappingTable where
  entries := [⟨⟨192, 0, 2, 10⟩, ⟨Ipv6Address.mappedNetwork, ⟨192, 0, 2, 1⟩⟩⟩,
    ⟨⟨192, 0, 2, 11⟩, ⟨⟨0, 0, 0, 0, 0, 0⟩, ⟨192, 0, 2, 11⟩⟩⟩,
    ⟨⟨192, 0, 2, 12⟩, ⟨⟨0x2001, 0, 0, 1, 0, 0⟩, ⟨0, 0, 0, 1⟩⟩⟩]
  peers := [⟨⟨⟨0xfd00, 0, 0, 0, 0, 0⟩, ⟨0, 0, 0, 1⟩⟩, ⟨⟨0, 0, 0, 0, 0, 0⟩, ⟨0, 0, 0, 1⟩⟩⟩]
  configured := some ⟨0x64, 0xff9b, 0, 0, 0, 0⟩

theorem loaded_listedTable : listedTable.Loaded :=
  loaded_iff_distinct.mpr ⟨by decide, by decide, by decide⟩

theorem render_reads_back_listedTable : listedTable.Loaded ∧ listedTable.ReadsBack :=
  ⟨loaded_listedTable, render_reads_back loaded_listedTable⟩

example : listedTable.render = String.join
    ["mapping-prefix 64:ff9b::/96\n", "map-static 192.0.2.10 ::ffff:192.0.2.1\n",
      "map-static 192.0.2.11 ::c000:20b\n", "map-static 192.0.2.12 2001:0:0:1::1\n",
      "map66-static fd00::1 ::1\n"] := by
  decide +kernel

end MappingTable

end FamilyGateway
