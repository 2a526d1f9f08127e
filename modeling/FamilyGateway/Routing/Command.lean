import FamilyGateway.Routing.Router
import FamilyGateway.SystemError
import FamilyGateway.Text.Blank
import FamilyGateway.Text.Utf8

/-!
# Routing commands

A host has one of two sets of tools for its routes. Here stand the command lines that
each of them takes: to bring the interface up, to add and delete a route or a rule,
and, where rules point at a routing table of their own, to fill and to empty that
table. Tools without rules use routes in their place.

Commands are run by a `Shell`. No word of a command can contain NUL, so a shell need not
be asked about commands with such a word.
-/

set_option autoImplicit false

namespace FamilyGateway

/-! ## Commands -/

/-- A program and its arguments. -/
structure Invocation where
  program : String
  arguments : List String
  deriving DecidableEq, Repr

/-- A command as one line. -/
def Invocation.line (command : Invocation) : String :=
  " ".intercalate (command.program :: command.arguments)

/-- Whether a word of a command contains the character that ends each word when a program is
started. -/
def Invocation.hasNul (command : Invocation) : Bool :=
  (command.program :: command.arguments).any fun word => word.toList.contains '\x00'

/-- How running a command ends. -/
inductive CommandResult where
  | success
  /-- The program reports a failure, with what it wrote about it. -/
  | failure (complaint : Bytes)
  /-- The program could not be started. -/
  | notStarted (error : SystemError)
  /-- No program can be started with such a word. -/
  | nulInWord
  deriving DecidableEq, Repr

/-- Something that runs commands, with states in `σ`. -/
abbrev Shell (σ : Type) := σ → Invocation → σ × CommandResult

/-- The shell that is not asked to run commands that no program can be started with. -/
def Shell.refusingNul {σ : Type} (shell : Shell σ) : Shell σ := fun state command =>
  if command.hasNul then (state, .nulInWord) else shell state command

/-- The complaint of a failed command, on one line. -/
def complaintText (complaint : Bytes) : String :=
  String.ofList (Text.trim (Text.Utf8.lossyText complaint).toList)

/-- What the result of a command means to the router that gave it. -/
def CommandResult.check (command : Invocation) : CommandResult → Except RouteError Unit
  | success => .ok ()
  | failure complaint => .error ⟨s!"{command.line} failed: {complaintText complaint}"⟩
  | notStarted error => .error ⟨s!"cannot execute {command.program}: {error.message}"⟩
  | nulInWord => .error ⟨s!"cannot execute {command.program}: nul byte found in provided data"⟩

/-! ## The two sets of tools -/

/-- The tools that a host has for its routes. -/
inductive RouteTool where
  /-- One program for routes and rules, with a routing table for the rules. -/
  | iproute
  /-- Separate programs for routes and interfaces, without rules. -/
  | bsd
  deriving DecidableEq, Repr

/-- What is done with a route or a rule. -/
inductive RouteAction where
  | add
  | delete
  deriving DecidableEq, Repr

namespace RouteTool

/-- The tools of the hosts that this program is made for. -/
def native : RouteTool := iproute

/-- The routing table that rules point at. -/
def policyTable : String := "646"

/-- Brings an interface up. -/
def linkUp (interface : String) : RouteTool → Invocation
  | iproute => ⟨"ip", ["link", "set", "dev", interface, "up"]⟩
  | bsd => ⟨"ifconfig", [interface, "up"]⟩

/-- The option by which a family is named. -/
def familyFlag : RouteTool → Family → String
  | iproute, .inet => "-4"
  | iproute, .inet6 => "-6"
  | bsd, .inet => "-inet"
  | bsd, .inet6 => "-inet6"

/-- The word for what is done with a route. -/
def routeVerb : RouteTool → RouteAction → String
  | iproute, .add => "replace"
  | iproute, .delete => "del"
  | bsd, .add => "add"
  | bsd, .delete => "delete"

/-- The word for what is done with a rule. -/
def ruleVerb : RouteAction → String
  | .add => "add"
  | .delete => "del"

/-- Adds or deletes a route to a destination through an interface. -/
def route (interface : String) (tool : RouteTool) (family : Family) (action : RouteAction)
    (destination : String) : Invocation :=
  let flag := tool.familyFlag family
  let verb := tool.routeVerb action
  match tool with
  | iproute => ⟨"ip", [flag, "route", verb, destination, "dev", interface]⟩
  | bsd => ⟨"route", ["-q", verb, flag, destination, "-interface", interface]⟩

/-- Adds or deletes a rule that has a destination looked up in the policy table. -/
def rule (interface : String) (tool : RouteTool) (action : RouteAction) (destination : String) :
    Invocation :=
  match tool with
  | iproute => ⟨"ip", ["-6", "rule", ruleVerb action, "to", destination, "table", policyTable]⟩
  | bsd => bsd.route interface .inet6 action destination

/-- Fills the policy table with a default route through an interface. -/
def fillPolicyTable (interface : String) : RouteTool → Option Invocation
  | iproute =>
    some ⟨"ip", ["-6", "route", "replace", "default", "dev", interface, "table", policyTable]⟩
  | bsd => none

/-- Empties the policy table. -/
def emptyPolicyTable : RouteTool → Option Invocation
  | iproute => some ⟨"ip", ["-6", "route", "flush", "table", policyTable]⟩
  | bsd => none

end RouteTool

end FamilyGateway
