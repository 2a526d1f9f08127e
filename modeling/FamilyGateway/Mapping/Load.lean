import FamilyGateway.Config.Directive
import FamilyGateway.Log
import FamilyGateway.Mapping.Table

/-!
# Loading a configuration into a table

Directives take effect one after the other. A line that cannot take effect is skipped
with a warning, and so is a file that cannot be read. An included file's lines take
the place of the line that includes it, and included files may include further ones,
down to ten levels: a deeper include makes the whole load fail, whether or not its
file exists, and leaves in the table what was loaded before it.
-/

set_option autoImplicit false

namespace FamilyGateway

/-- What there is to say about a directive that had no effect, or not quite the one it asked
for. -/
inductive LoadWarning where
  | invalidAddress (keyword first second : String)
  | invalidNetwork (address : String)
  /-- A network was given with some of its low bits set. -/
  | truncatedNetwork (address : Ipv6Address)
  | duplicate (ipv4 : Ipv4Address) (ipv6 : Ipv6Address)
  | duplicatePeer (inner outer : Ipv6Address)
  | operandCount (keyword : String) (expected : Nat)
  | unknownKeyword (keyword : String)
  | unreadable (error : ReadError)
  deriving DecidableEq, Repr

/-- What is logged about a directive. -/
def LoadWarning.message (directive : Directive) : LoadWarning → String
  | invalidAddress keyword first second =>
    s!"{directive.location}: invalid address in {keyword} {first} {second}, skipped"
  | invalidNetwork address =>
    s!"{directive.location}: invalid mapping prefix {address}, skipped"
  | truncatedNetwork address =>
    s!"{directive.location}: mapping prefix {address.text} truncated to {address.masked.text}/96"
  | duplicate ipv4 ipv6 =>
    s!"{directive.location}: duplicate mapping {ipv4.text} {ipv6.text}, skipped"
  | duplicatePeer inner outer =>
    s!"{directive.location}: duplicate 6-to-6 mapping {inner.text} {outer.text}, skipped"
  | operandCount keyword expected =>
    s!"{directive.location}: {keyword} expects {expected} operand(s), skipped"
  | unknownKeyword keyword => s!"{directive.location}: unknown directive {keyword}, skipped"
  | unreadable error => s!"skipping include: {error.message}"

/-- How deep included files may be nested. -/
def includeDepthLimit : Nat := 10

/-- An include line was found below the deepest level that is read. -/
structure IncludeTooDeep where
  path : String
  deriving DecidableEq, Repr

/-- What people are shown about includes that are nested too deep. -/
def IncludeTooDeep.message (error : IncludeTooDeep) : String :=
  s!"include nesting deeper than {includeDepthLimit} levels at {error.path}"

namespace MappingTable

/-- The effect of one line that includes no file, and what there is to say about it. -/
def apply (table : MappingTable) : DirectiveKind → MappingTable × Option LoadWarning
  | .mapStatic ipv4 ipv6 =>
    match Ipv4Address.ofString? ipv4, Ipv6Address.ofString? ipv6 with
    | some ipv4, some ipv6 =>
      match table.insert? ipv4 ipv6 with
      | some table => (table, none)
      | none => (table, some (.duplicate ipv4 ipv6))
    | _, _ => (table, some (.invalidAddress "map-static" ipv4 ipv6))
  | .map66Static inner outer =>
    match Ipv6Address.ofString? inner, Ipv6Address.ofString? outer with
    | some inner, some outer =>
      match table.insertPeer? inner outer with
      | some table => (table, none)
      | none => (table, some (.duplicatePeer inner outer))
    | _, _ => (table, some (.invalidAddress "map66-static" inner outer))
  | .mappingPrefix address =>
    match Ipv6Address.ofString? address with
    | some address =>
      (table.configure address.network,
        if address.low = .zero then none else some (.truncatedNetwork address))
    | none => (table, some (.invalidNetwork address))
  | .includeFile _ => (table, none)
  | .malformed keyword expected => (table, some (.operandCount keyword expected))
  | .unknown keyword => (table, some (.unknownKeyword keyword))

/-- What loading some directives leads to. -/
structure LoadOutcome where
  table : MappingTable
  /-- The warnings in order, each with its directive. -/
  warnings : List (Directive × LoadWarning)
  failure : Option IncludeTooDeep

/-- The outcome with some warnings in front of its own. -/
def LoadOutcome.after (outcome : LoadOutcome) (warnings : List (Directive × LoadWarning)) :
    LoadOutcome :=
  { outcome with warnings := warnings ++ outcome.warnings }

/-- The warnings of an outcome as log lines. -/
def LoadOutcome.log (outcome : LoadOutcome) : List LogLine :=
  outcome.warnings.map fun (directive, warning) => .warn (warning.message directive)

/-- Loads directives into a table, following includes down the given number of levels. -/
def loadWithin (files : FileReader) (levels : Nat) (table : MappingTable) :
    List Directive → LoadOutcome
  | [] => ⟨table, [], none⟩
  | directive :: rest =>
    match directive.kind with
    | .includeFile path =>
      match levels with
      | 0 => ⟨table, [], some ⟨path⟩⟩
      | below + 1 =>
        match Directive.ofFile files path with
        | .error error =>
          (loadWithin files (below + 1) table rest).after [(directive, .unreadable error)]
        | .ok included =>
          let inner := loadWithin files below table included
          match inner.failure with
          | some _ => inner
          | none => (loadWithin files (below + 1) inner.table rest).after inner.warnings
    | kind =>
      let (next, warning) := table.apply kind
      (loadWithin files levels next rest).after (warning.toList.map (directive, ·))
termination_by directives => (levels, directives.length)

/-- Loads directives into a table. -/
def load (files : FileReader) (table : MappingTable) (directives : List Directive) :
    LoadOutcome :=
  loadWithin files includeDepthLimit table directives

end MappingTable

end FamilyGateway
