import FamilyGateway.Mapping.Table

/-!
# The table as text

A table is shown as a configuration: the network, then one line for each pair, in the
order of the table. The pairs can be read back from it.
-/

set_option autoImplicit false

namespace FamilyGateway

/-- How many leading bits of an IPv6 address the network for IPv4 addresses fixes. -/
def networkLength : Nat := 96

/-- The text of a table, one line for the network and one for each pair. -/
def MappingTable.render (table : MappingTable) : String :=
  let network := s!"mapping-prefix {table.networkAddress.text}/{networkLength}\n"
  let entries := table.entries.map fun entry =>
    s!"map-static {entry.ipv4.text} {entry.ipv6.text}\n"
  let peers := table.peers.map fun entry =>
    s!"map66-static {entry.inner.text} {entry.outer.text}\n"
  String.join (network :: entries ++ peers)

end FamilyGateway
