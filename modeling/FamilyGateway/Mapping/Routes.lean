import FamilyGateway.Mapping.Render
import FamilyGateway.Routing.Router

/-!
# The routes of a table

A table asks for a host route to each IPv4 address in it, a route to the configured
network, and a rule for each global address of a pair within IPv6. Without the network
route no answer from the IPv6 side finds its way back, so its failure is the only one
that counts; the others are logged.
-/

set_option autoImplicit false

namespace FamilyGateway.MappingTable

variable {ρ : Type}

/-- What is logged about a host route that could not be installed. -/
def hostRouteComplaint (address : Ipv4Address) (error : RouteError) : LogLine :=
  .warn s!"IPv4 host route for {address.text} failed: {error.message}"

/-- What is logged about a rule that could not be installed. -/
def ruleComplaint (address : Ipv6Address) (error : RouteError) : LogLine :=
  .warn s!"IPv6 policy rule for {address.text} failed: {error.message}"

/-- What is logged about routes that could not be removed. -/
def removalComplaint (family : Family) (error : RouteError) : LogLine :=
  .warn s!"removing {family.name} routes failed: {error.message}"

/-- What is logged when IPv4 addresses appear under a network that nobody configured. -/
def unconfiguredWarning : LogLine :=
  .warn "no mapping-prefix configured, IPv4 sources map into ::/96 without a route"

/-- Asks for a host route to the IPv4 address of each pair. -/
def installHosts (router : Router ρ) (table : MappingTable) (routing : Routing ρ) : Routing ρ :=
  table.entries.foldl (fun routing entry =>
    routing.attempt router (.addHost (.v4 entry.ipv4)) (hostRouteComplaint entry.ipv4)) routing

/-- Asks for a rule for the global address of each pair within IPv6. -/
def installRules (router : Router ρ) (table : MappingTable) (routing : Routing ρ) : Routing ρ :=
  table.peers.foldl (fun routing entry =>
    routing.attempt router (.addRule (.v6 entry.outer) Family.inet6.hostPrefixLength)
      (ruleComplaint entry.outer)) routing

/-- Asks for the route to the configured network. -/
def installNetwork (router : Router ρ) (table : MappingTable) (routing : Routing ρ) :
    Routing ρ × Except RouteError Unit :=
  match table.configured with
  | some network =>
    routing.call router (.addNetwork (.v6 (.embed network .zero)) networkLength)
  | none => (if table.entries.isEmpty then routing else routing.note unconfiguredWarning, .ok ())

/-- Installs the routes of a table: host routes, the network route, and, if that one could be
installed, the rules. -/
def install (router : Router ρ) (table : MappingTable) (routing : Routing ρ) :
    Routing ρ × Except RouteError Unit :=
  match table.installNetwork router (table.installHosts router routing) with
  | (routing, .ok ()) => (table.installRules router routing, .ok ())
  | (routing, .error error) => (routing, .error error)

/-- Removes what was installed for either family. -/
def uninstall (router : Router ρ) (routing : Routing ρ) : Routing ρ :=
  [Family.inet, Family.inet6].foldl (fun routing family =>
    routing.attempt router (.removeAll family) (removalComplaint family)) routing

end FamilyGateway.MappingTable
