import FamilyGateway.Proofs.Mapping.Lines

/-!
# Loading puts included files in place

Depth-first expansion takes the lines of a configuration one after the other and puts the
lines of a file in place of a line that includes it (`Expands`). It stops at an include
below the deepest level, and so it comes to an end even where files include one another.

A load does not build the expanded list, but it leaves in the table what the expanded
lines leave, warns about them in their order, and fails exactly if expansion has stopped
at an include (`MappingTable.load_inlined`).
-/

set_option autoImplicit false

namespace FamilyGateway

/-! ## Expansion -/

/-- What expansion comes to: a line that includes no file, or one whose file cannot be read. -/
inductive Inlined where
  | line (directive : Directive)
  | unreadable (directive : Directive) (error : ReadError)
  deriving DecidableEq, Repr

/-- What a line says that includes no file. -/
def Inlined.kind? : Inlined → Option DirectiveKind
  | line directive => some directive.kind
  | unreadable _ _ => none

/-- A line that is still to be expanded, with the number of included files that it is in. -/
abbrev NestedLine := Nat × Directive

/-- The lines of a file that is in so many included files, or is the last of them. -/
def nested (depth : Nat) (directives : List Directive) : List NestedLine :=
  directives.map (depth, ·)

/-- Depth-first expansion: from some lines over what it comes to meanwhile to the lines that are
left. An include is expanded only above the deepest level. -/
inductive Expands (files : FileReader) :
    List NestedLine → List Inlined → List NestedLine → Prop where
  | rest (lines : List NestedLine) : Expands files lines [] lines
  | line {depth : Nat} {directive : Directive} {lines left : List NestedLine}
      {inlined : List Inlined} (plain : ∀ path, directive.kind ≠ .includeFile path)
      (further : Expands files lines inlined left) :
      Expands files ((depth, directive) :: lines) (.line directive :: inlined) left
  | file {depth : Nat} {directive : Directive} {path : String} {included : List Directive}
      {lines left : List NestedLine} {inlined : List Inlined}
      (named : directive.kind = .includeFile path) (above : depth < includeDepthLimit)
      (reads : Directive.ofFile files path = .ok included)
      (further : Expands files (nested (depth + 1) included ++ lines) inlined left) :
      Expands files ((depth, directive) :: lines) inlined left
  | unreadable {depth : Nat} {directive : Directive} {path : String} {error : ReadError}
      {lines left : List NestedLine} {inlined : List Inlined}
      (named : directive.kind = .includeFile path) (above : depth < includeDepthLimit)
      (fails : Directive.ofFile files path = .error error)
      (further : Expands files lines inlined left) :
      Expands files ((depth, directive) :: lines) (.unreadable directive error :: inlined) left

/-- Expansion has come to its end: no line is left, or it has stopped at an include below the
deepest level. -/
inductive Ends : List NestedLine → Option IncludeTooDeep → Prop where
  | done : Ends [] none
  | tooDeep {directive : Directive} {path : String} (named : directive.kind = .includeFile path)
      (lines : List NestedLine) : Ends ((includeDepthLimit, directive) :: lines) (some ⟨path⟩)

theorem Ends.unique {lines : List NestedLine} {failure other : Option IncludeTooDeep}
    (ends : Ends lines failure) (again : Ends lines other) : failure = other := by
  cases ends with
  | done => cases again; rfl
  | tooDeep named lines =>
      cases again with
      | tooDeep also => cases named.symm.trans also; rfl

/-- There is a chain of that many readable files, each included by a line of the one before it,
and an include in the last of them. -/
inductive IncludesBelow (files : FileReader) : Nat → List Directive → Prop where
  | here {directive : Directive} {directives : List Directive} {path : String}
      (member : directive ∈ directives) (named : directive.kind = .includeFile path) :
      IncludesBelow files 0 directives
  | file {levels : Nat} {directive : Directive} {directives included : List Directive}
      {path : String} (member : directive ∈ directives)
      (named : directive.kind = .includeFile path)
      (reads : Directive.ofFile files path = .ok included)
      (below : IncludesBelow files levels included) : IncludesBelow files (levels + 1) directives

namespace Expands

variable {files : FileReader} {lines left : List NestedLine} {inlined : List Inlined}

/-- What follows some lines does not matter to their expansion. -/
theorem followedBy (expands : Expands files lines inlined left) (more : List NestedLine) :
    Expands files (lines ++ more) inlined (left ++ more) := by
  induction expands with
  | rest lines => exact .rest _
  | line plain _ ih => exact .line plain ih
  | file named above reads _ ih =>
      rw [List.append_assoc] at ih
      exact .file named above reads ih
  | unreadable named above fails _ ih => exact .unreadable named above fails ih

theorem trans {last : List NestedLine} {further : List Inlined}
    (first : Expands files lines inlined left) (second : Expands files left further last) :
    Expands files lines (inlined ++ further) last := by
  induction first with
  | rest lines => exact second
  | line plain _ ih => exact .line plain (ih second)
  | file named above reads _ ih => exact .file named above reads (ih second)
  | unreadable named above fails _ ih => exact .unreadable named above fails (ih second)

/-- Nothing is expanded beyond the end. -/
theorem of_ends {failure : Option IncludeTooDeep} (ends : Ends lines failure)
    (expands : Expands files lines inlined left) : inlined = [] ∧ left = lines := by
  cases ends with
  | done => cases expands; exact ⟨rfl, rfl⟩
  | tooDeep named lines =>
      cases expands with
      | rest => exact ⟨rfl, rfl⟩
      | line plain => exact absurd named (plain _)
      | file _ above => exact absurd above (Nat.lt_irrefl _)
      | unreadable _ above => exact absurd above (Nat.lt_irrefl _)

/-- Expansion has one end only. -/
theorem unique {last : List NestedLine} {other : List Inlined}
    {failure otherFailure : Option IncludeTooDeep} (expands : Expands files lines inlined left)
    (ends : Ends left failure) (again : Expands files lines other last)
    (ended : Ends last otherFailure) : inlined = other ∧ failure = otherFailure := by
  induction expands generalizing other with
  | rest lines =>
      obtain ⟨rfl, rfl⟩ := again.of_ends ends
      exact ⟨rfl, ends.unique ended⟩
  | line plain expands ih =>
      cases again with
      | rest => cases ended with | tooDeep named => exact absurd named (plain _)
      | line _ further =>
          obtain ⟨rfl, same⟩ := ih ends further
          exact ⟨rfl, same⟩
      | file named => exact absurd named (plain _)
      | unreadable named => exact absurd named (plain _)
  | file named above reads expands ih =>
      cases again with
      | rest => cases ended with | tooDeep => exact absurd above (Nat.lt_irrefl _)
      | line plain => exact absurd named (plain _)
      | file again _ readsAgain further =>
          cases named.symm.trans again
          cases reads.symm.trans readsAgain
          exact ih ends further
      | unreadable again _ fails =>
          cases named.symm.trans again
          cases reads.symm.trans fails
  | unreadable named above fails expands ih =>
      cases again with
      | rest => cases ended with | tooDeep => exact absurd above (Nat.lt_irrefl _)
      | line plain => exact absurd named (plain _)
      | file again _ reads =>
          cases named.symm.trans again
          cases fails.symm.trans reads
      | unreadable again _ failsAgain further =>
          cases named.symm.trans again
          cases fails.symm.trans failsAgain
          obtain ⟨rfl, same⟩ := ih ends further
          exact ⟨rfl, same⟩

end Expands

namespace MappingTable

variable {files : FileReader}

/-! ## Warnings -/

/-- One warning for each line that meets with an objection in the table that the lines before it
leave, and for each file that cannot be read, in order, and no other. -/
inductive Warned : MappingTable → List Inlined → List (Directive × LoadWarning) → Prop where
  | nothing (table : MappingTable) : Warned table [] []
  | silent {table : MappingTable} {directive : Directive} {inlined : List Inlined}
      {warnings : List (Directive × LoadWarning)} (effective : table.TakesEffect directive.kind)
      (further : Warned (table.holding [directive.kind]) inlined warnings) :
      Warned table (.line directive :: inlined) warnings
  | line {table : MappingTable} {directive : Directive} {warning : LoadWarning}
      {inlined : List Inlined} {warnings : List (Directive × LoadWarning)}
      (objection : table.Objection directive.kind warning)
      (further : Warned (table.holding [directive.kind]) inlined warnings) :
      Warned table (.line directive :: inlined) ((directive, warning) :: warnings)
  | unreadable {table : MappingTable} {directive : Directive} {error : ReadError}
      {inlined : List Inlined} {warnings : List (Directive × LoadWarning)}
      (further : Warned table inlined warnings) :
      Warned table (.unreadable directive error :: inlined)
        ((directive, .unreadable error) :: warnings)

/-- What expanded lines leave in a table. -/
def taking (table : MappingTable) (inlined : List Inlined) : MappingTable :=
  table.holding (inlined.filterMap Inlined.kind?)

theorem taking_append (table : MappingTable) (inlined more : List Inlined) :
    table.taking (inlined ++ more) = (table.taking inlined).taking more := by
  rw [taking, List.filterMap_append, holding_append]
  rfl

theorem taking_line (table : MappingTable) (directive : Directive) (inlined : List Inlined) :
    table.taking (.line directive :: inlined) =
      (table.holding [directive.kind]).taking inlined :=
  holding_append table [directive.kind] (inlined.filterMap Inlined.kind?)

theorem Warned.append {table : MappingTable} {inlined more : List Inlined}
    {warnings further : List (Directive × LoadWarning)} (first : table.Warned inlined warnings)
    (second : (table.taking inlined).Warned more further) :
    table.Warned (inlined ++ more) (warnings ++ further) := by
  induction first with
  | nothing table => exact second
  | silent effective _ ih => exact .silent effective (ih (taking_line .. ▸ second))
  | line objection _ ih => exact .line objection (ih (taking_line .. ▸ second))
  | unreadable _ ih => exact .unreadable (ih second)

/-! ## Loading -/

/-- What a load of some lines comes to, told by their expansion. -/
structure Inlines (files : FileReader) (start : MappingTable) (lines : List NestedLine)
    (inlined : List Inlined) (left : List NestedLine) (outcome : LoadOutcome) : Prop where
  expands : Expands files lines inlined left
  ends : Ends left outcome.failure
  table : outcome.table = start.taking inlined
  warned : start.Warned inlined outcome.warnings

namespace Inlines

variable {table : MappingTable} {depth : Nat} {directive : Directive} {path : String}
  {lines left : List NestedLine} {inlined : List Inlined} {outcome : LoadOutcome}

theorem line (plain : ∀ path, directive.kind ≠ .includeFile path)
    (further : Inlines files (table.apply directive.kind).1 lines inlined left outcome) :
    Inlines files table ((depth, directive) :: lines) (.line directive :: inlined) left
      (outcome.after ((table.apply directive.kind).2.toList.map (directive, ·))) where
  expands := .line plain further.expands
  ends := further.ends
  table := by
    rw [taking_line, holding_singleton]
    exact further.table
  warned := by
    have later := further.warned
    rw [← holding_singleton] at later
    cases said : (table.apply directive.kind).2 with
    | none => exact .silent ((apply_snd_eq_none_iff plain).mp said) later
    | some warning => exact .line (apply_snd_eq_some_iff.mp said) later

theorem unreadable {error : ReadError} (named : directive.kind = .includeFile path)
    (above : depth < includeDepthLimit) (fails : Directive.ofFile files path = .error error)
    (further : Inlines files table lines inlined left outcome) :
    Inlines files table ((depth, directive) :: lines) (.unreadable directive error :: inlined) left
      (outcome.after [(directive, .unreadable error)]) where
  expands := .unreadable named above fails further.expands
  ends := further.ends
  table := further.table
  warned := .unreadable further.warned

/-- An included file in which expansion stops. -/
theorem stopping {included : List Directive} {error : IncludeTooDeep}
    (named : directive.kind = .includeFile path) (above : depth < includeDepthLimit)
    (reads : Directive.ofFile files path = .ok included)
    (inner : Inlines files table (nested (depth + 1) included) inlined left outcome)
    (failed : outcome.failure = some error) (lines : List NestedLine) :
    Inlines files table ((depth, directive) :: lines) inlined (left ++ lines) outcome where
  expands := .file named above reads (inner.expands.followedBy lines)
  ends := by
    have ends := inner.ends
    rw [failed] at ends ⊢
    cases ends with
    | tooDeep named more => exact .tooDeep named (more ++ lines)
  table := inner.table
  warned := inner.warned

/-- An included file that is read to its end. -/
theorem file {included : List Directive} {more : List Inlined} {last : List NestedLine}
    {later : LoadOutcome} (named : directive.kind = .includeFile path)
    (above : depth < includeDepthLimit) (reads : Directive.ofFile files path = .ok included)
    (inner : Inlines files table (nested (depth + 1) included) inlined left outcome)
    (whole : outcome.failure = none)
    (further : Inlines files outcome.table lines more last later) :
    Inlines files table ((depth, directive) :: lines) (inlined ++ more) last
      (later.after outcome.warnings) where
  expands := by
    have ends := inner.ends
    rw [whole] at ends
    cases ends
    exact .file named above reads ((inner.expands.followedBy lines).trans further.expands)
  ends := further.ends
  table := by
    rw [taking_append, ← inner.table]
    exact further.table
  warned := inner.warned.append (inner.table ▸ further.warned)

end Inlines

/-- Every load is told by expansion, at whatever depth it begins. -/
theorem exists_inlines (files : FileReader) (levels : Nat) (table : MappingTable)
    (directives : List Directive) {depth : Nat} (deepest : depth + levels = includeDepthLimit) :
    ∃ inlined left, Inlines files table (nested depth directives) inlined left
      (loadWithin files levels table directives) := by
  fun_induction loadWithin files levels table directives generalizing depth with
  | case1 => exact ⟨[], [], .rest [], .done, rfl, .nothing _⟩
  | case2 table directive rest path named =>
      obtain rfl : depth = includeDepthLimit := deepest
      exact ⟨[], _, .rest _, .tooDeep named _, rfl, .nothing _⟩
  | case3 table directive rest path named below error fails ih =>
      have above : depth < includeDepthLimit := by omega
      obtain ⟨inlined, left, further⟩ := ih deepest
      exact ⟨_, left, further.unreadable named above fails⟩
  | case4 table directive rest path named below included reads inner error failed =>
      rename_i ih
      have above : depth < includeDepthLimit := by omega
      have deeper : depth + 1 + below = includeDepthLimit := by omega
      obtain ⟨inlined, left, inner⟩ := ih deeper
      exact ⟨inlined, _, inner.stopping named above reads failed (nested depth rest)⟩
  | case5 table directive rest path named below included reads inner whole ihIncluded =>
      rename_i ihRest
      have above : depth < includeDepthLimit := by omega
      have deeper : depth + 1 + below = includeDepthLimit := by omega
      obtain ⟨inlined, left, inner⟩ := ihIncluded deeper
      obtain ⟨more, last, further⟩ := ihRest deepest
      exact ⟨_, last, inner.file named above reads whole further⟩
  | case6 levels table directive rest next warning plain applied ih =>
      obtain ⟨inlined, left, further⟩ := ih deepest
      obtain rfl : (table.apply directive.kind).1 = next := congrArg Prod.fst applied
      obtain rfl : (table.apply directive.kind).2 = warning := congrArg Prod.snd applied
      exact ⟨_, left, further.line plain⟩

/-! ## Chains of included files -/

theorem includesBelow_zero_cons {directive : Directive} {rest : List Directive} :
    IncludesBelow files 0 (directive :: rest) ↔
      (∃ path, directive.kind = .includeFile path) ∨ IncludesBelow files 0 rest := by
  constructor
  · intro below
    cases below with
    | here member named =>
        rcases List.mem_cons.mp member with rfl | later
        · exact .inl ⟨_, named⟩
        · exact .inr (.here later named)
  · rintro (⟨path, named⟩ | below)
    · exact .here List.mem_cons_self named
    · cases below with
      | here member named => exact .here (List.mem_cons_of_mem _ member) named

theorem includesBelow_succ_cons {levels : Nat} {directive : Directive} {rest : List Directive} :
    IncludesBelow files (levels + 1) (directive :: rest) ↔
      (∃ path included, directive.kind = .includeFile path ∧
        Directive.ofFile files path = .ok included ∧ IncludesBelow files levels included) ∨
      IncludesBelow files (levels + 1) rest := by
  constructor
  · intro below
    cases below with
    | file member named reads below =>
        rcases List.mem_cons.mp member with rfl | later
        · exact .inl ⟨_, _, named, reads, below⟩
        · exact .inr (.file later named reads below)
  · rintro (⟨path, included, named, reads, below⟩ | below)
    · exact .file List.mem_cons_self named reads below
    · cases below with
      | file member named reads below =>
          exact .file (List.mem_cons_of_mem _ member) named reads below

theorem includesBelow_cons_of_plain {levels : Nat} {directive : Directive} {rest : List Directive}
    (plain : ∀ path, directive.kind ≠ .includeFile path) :
    IncludesBelow files levels (directive :: rest) ↔ IncludesBelow files levels rest := by
  cases levels with
  | zero =>
      rw [includesBelow_zero_cons, or_iff_right]
      exact fun ⟨path, named⟩ => plain path named
  | succ levels =>
      rw [includesBelow_succ_cons, or_iff_right]
      exact fun ⟨path, _, named, _⟩ => plain path named

/-- A load fails exactly if the levels that it may follow do not suffice for some chain of included
files. -/
theorem isSome_failure_iff (files : FileReader) (levels : Nat) (table : MappingTable)
    (directives : List Directive) :
    (loadWithin files levels table directives).failure.isSome ↔
      IncludesBelow files levels directives := by
  fun_induction loadWithin files levels table directives with
  | case1 levels table =>
      refine iff_of_false Bool.false_ne_true fun below => ?_
      cases below with
      | here member => cases member
      | file member => cases member
  | case2 table directive rest path named =>
      exact iff_of_true rfl (.here List.mem_cons_self named)
  | case3 table directive rest path named below error fails ih =>
      rw [includesBelow_succ_cons, or_iff_right]
      · exact ih
      · rintro ⟨path, included, again, reads, _⟩
        cases named.symm.trans again
        cases fails.symm.trans reads
  | case4 table directive rest path named below included reads inner error failed =>
      rename_i ih
      have some : inner.failure.isSome := by rw [failed]; rfl
      exact iff_of_true some (.file List.mem_cons_self named reads (ih.mp some))
  | case5 table directive rest path named below included reads inner whole ihIncluded =>
      rename_i ihRest
      rw [includesBelow_succ_cons, or_iff_right]
      · exact ihRest
      · rintro ⟨path, other, again, readsAgain, deeper⟩
        cases named.symm.trans again
        cases reads.symm.trans readsAgain
        have failed : inner.failure.isSome := ihIncluded.mpr deeper
        rw [whole] at failed
        cases failed
  | case6 levels table directive rest next warning plain applied ih =>
      rw [includesBelow_cons_of_plain plain]
      exact ih

/-! ## Loading -/

/-- Loading is inlining. -/
structure LoadsInlined (files : FileReader) (start : MappingTable) (directives : List Directive)
    (outcome : LoadOutcome) : Prop where
  /-- The load fails exactly if expansion stops at an include, and then it names that include. -/
  fails_iff (error : IncludeTooDeep) : outcome.failure = some error ↔
    ∃ inlined left, Expands files (nested 0 directives) inlined left ∧ Ends left (some error)
  /-- The load succeeds exactly if expansion comes to the end of the lines. -/
  succeeds_iff : outcome.failure = none ↔
    ∃ inlined, Expands files (nested 0 directives) inlined []
  /-- The load fails exactly if there is an include below ten levels of readable files. -/
  chain_iff : outcome.failure.isSome ↔ IncludesBelow files includeDepthLimit directives
  /-- Whether the load fails or not, the table is what the expanded lines leave. -/
  table {inlined : List Inlined} {left : List NestedLine} {failure : Option IncludeTooDeep}
    (expands : Expands files (nested 0 directives) inlined left) (ends : Ends left failure) :
    outcome.table = start.holding (inlined.filterMap Inlined.kind?)
  /-- The network is the last one that can be read, its low bits cleared. -/
  network {inlined : List Inlined} {left : List NestedLine} {failure : Option IncludeTooDeep}
    (expands : Expands files (nested 0 directives) inlined left) (ends : Ends left failure)
    {address : Ipv6Address}
    (last : ((inlined.filterMap Inlined.kind?).filterMap DirectiveKind.networkAddress?).getLast? =
      some address) : outcome.table.networkAddress = address.masked
  /-- There is a warning for each expanded line that does not take effect as it stands and for each
  file that cannot be read. -/
  warned {inlined : List Inlined} {left : List NestedLine} {failure : Option IncludeTooDeep}
    (expands : Expands files (nested 0 directives) inlined left) (ends : Ends left failure) :
    start.Warned inlined outcome.warnings
  /-- Each warning is one line of the log. -/
  log : outcome.log = outcome.warnings.map fun (directive, warning) =>
    .warn (warning.message directive)

/-- **Loading is inlining**, whatever the table, the lines and the files, also where files include
one another without end. -/
theorem load_inlined (files : FileReader) (table : MappingTable) (directives : List Directive) :
    LoadsInlined files table directives (table.load files directives) := by
  obtain ⟨inlined, left, inlines⟩ : ∃ inlined left, Inlines files table (nested 0 directives)
      inlined left (table.load files directives) :=
    exists_inlines files includeDepthLimit table directives (Nat.zero_add _)
  -- Expansion has one end, so what this load is told by is what it comes to in any case.
  have only {other : List Inlined} {last : List NestedLine} {failure : Option IncludeTooDeep}
      (expands : Expands files (nested 0 directives) other last) (ends : Ends last failure) :
      inlined = other ∧ (table.load files directives).failure = failure :=
    inlines.expands.unique inlines.ends expands ends
  refine ⟨fun error => ?_, ?_, ?_, fun expands ends => ?_, fun expands ends address last => ?_,
    fun expands ends => ?_, rfl⟩
  · constructor
    · intro failed
      exact ⟨inlined, left, inlines.expands, failed ▸ inlines.ends⟩
    · rintro ⟨other, last, expands, ends⟩
      exact (only expands ends).2
  · constructor
    · intro whole
      have ends := inlines.ends
      rw [whole] at ends
      cases ends
      exact ⟨inlined, inlines.expands⟩
    · rintro ⟨other, expands⟩
      exact (only expands .done).2
  · exact isSome_failure_iff files includeDepthLimit table directives
  · obtain ⟨rfl, _⟩ := only expands ends
    exact inlines.table
  · obtain ⟨rfl, _⟩ := only expands ends
    rw [inlines.table]
    exact networkAddress_holding last
  · obtain ⟨rfl, _⟩ := only expands ends
    exact inlines.warned

end MappingTable

end FamilyGateway
