import FamilyGateway.Routing.Command

/-!
# A router that runs commands

This router carries out each call by running commands, and remembers every route and
rule whose command succeeded. Removing a family takes back just these, the latest one
first, and goes on past commands that fail. The first rule is preceded by filling the
policy table, and removing IPv6 ends with emptying it.
-/

set_option autoImplicit false

namespace FamilyGateway

/-- Something that a router has installed. -/
inductive Installed where
  | route (network : Address) (length : Nat)
  | rule (network : Address) (length : Nat)
  deriving DecidableEq, Repr

namespace Installed

/-- The family that something installed is removed with. Rules go with IPv6. -/
def family : Installed → Family
  | route network _ => network.family
  | rule _ _ => .inet6

/-- The command that adds or deletes something. -/
def command (tool : RouteTool) (interface : String) (action : RouteAction) :
    Installed → Invocation
  | route network length =>
    tool.route interface network.family action (destinationText network length)
  | rule network length => tool.rule interface action (destinationText network length)

end Installed

/-- A router that runs commands in a shell with states in `σ`. -/
structure CommandRouter (σ : Type) where
  tool : RouteTool
  interface : String
  /-- What was installed and not removed, oldest first. -/
  installed : List Installed
  /-- Whether the policy table was filled and not emptied. -/
  policyTableReady : Bool
  shell : σ

namespace CommandRouter

variable {σ : Type}

/-- A router that has installed nothing. -/
def fresh (tool : RouteTool) (interface : String) (shell : σ) : CommandRouter σ :=
  ⟨tool, interface, [], false, shell⟩

/-- Runs a command. -/
def run (shell : Shell σ) (router : CommandRouter σ) (command : Invocation) :
    CommandRouter σ × Except RouteError Unit :=
  let (state, result) := shell router.shell command
  ({ router with shell := state }, result.check command)

/-- Brings the interface up. -/
def linkUp (shell : Shell σ) (router : CommandRouter σ) :
    CommandRouter σ × Except RouteError Unit :=
  router.run shell (router.tool.linkUp router.interface)

/-! ## Installing -/

/-- Runs the command that adds something, and remembers it if the command succeeded. -/
def install (shell : Shell σ) (router : CommandRouter σ) (entry : Installed) :
    CommandRouter σ × Except RouteError Unit :=
  match router.run shell (entry.command router.tool router.interface .add) with
  | (router, .ok ()) => ({ router with installed := router.installed ++ [entry] }, .ok ())
  | (router, .error error) => (router, .error error)

/-- Fills the policy table unless that was done before. -/
def preparePolicyTable (shell : Shell σ) (router : CommandRouter σ) :
    CommandRouter σ × Except RouteError Unit :=
  if router.policyTableReady then (router, .ok ())
  else
    match router.tool.fillPolicyTable router.interface with
    | none => ({ router with policyTableReady := true }, .ok ())
    | some command =>
      match router.run shell command with
      | (router, .ok ()) => ({ router with policyTableReady := true }, .ok ())
      | (router, .error error) => (router, .error error)

/-- Installs a rule, once the policy table is ready. -/
def installRule (shell : Shell σ) (router : CommandRouter σ) (network : Address) (length : Nat) :
    CommandRouter σ × Except RouteError Unit :=
  match router.preparePolicyTable shell with
  | (router, .ok ()) => router.install shell (.rule network length)
  | (router, .error error) => (router, .error error)

/-! ## Removing -/

/-- Deletes entries one after the other, and collects the errors of those that could not be
deleted. -/
def deleteAll (shell : Shell σ) (router : CommandRouter σ) :
    List Installed → CommandRouter σ × List RouteError
  | [] => (router, [])
  | entry :: rest =>
    let (router, result) := router.run shell (entry.command router.tool router.interface .delete)
    let (router, errors) := router.deleteAll shell rest
    match result with
    | .ok () => (router, errors)
    | .error error => (router, error :: errors)

/-- Empties the policy table if it was filled, and collects the error if that failed. -/
def discardPolicyTable (shell : Shell σ) (router : CommandRouter σ) :
    CommandRouter σ × List RouteError :=
  if router.policyTableReady then
    match router.tool.emptyPolicyTable with
    | none => ({ router with policyTableReady := false }, [])
    | some command =>
      match router.run shell command with
      | (router, .ok ()) => ({ router with policyTableReady := false }, [])
      | (router, .error error) => ({ router with policyTableReady := false }, [error])
  else (router, [])

/-- Several errors as one. -/
def combineErrors (errors : List RouteError) : Except RouteError Unit :=
  if errors = [] then .ok ()
  else .error ⟨"; ".intercalate (errors.map RouteError.message)⟩

/-- Deletes everything that was installed for a family, the latest entry first. Each entry that
could not be deleted is logged. -/
def removeAll (shell : Shell σ) (router : CommandRouter σ) (family : Family) :
    RouterAnswer (CommandRouter σ) :=
  let (removed, kept) := router.installed.partition fun entry => entry.family = family
  let (router, failures) := ({ router with installed := kept } : CommandRouter σ).deleteAll shell
    removed.reverse
  let (router, leftovers) := match family with
    | .inet => (router, [])
    | .inet6 => router.discardPolicyTable shell
  { state := router
    log := failures.map fun error => .warn error.message
    result := combineErrors (failures ++ leftovers) }

/-! ## Calls -/

/-- An answer without log lines. -/
def quietly (outcome : CommandRouter σ × Except RouteError Unit) : RouterAnswer (CommandRouter σ) :=
  ⟨outcome.1, [], outcome.2⟩

/-- The router's answer to each call. -/
def answer (shell : Shell σ) : Router (CommandRouter σ)
  | router, .addHost address =>
    quietly (router.install shell (.route address address.family.hostPrefixLength))
  | router, .addNetwork network length => quietly (router.install shell (.route network length))
  | router, .addRule network length => quietly (router.installRule shell network length)
  | router, .removeAll family => router.removeAll shell family

end CommandRouter

end FamilyGateway
