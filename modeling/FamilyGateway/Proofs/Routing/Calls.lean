import FamilyGateway.Mapping.Routes

/-!
# The calls that routes take

Installing and removing the routes of a table do nothing to a router but make calls to it,
one after the other (`Routing.Made`). The calls are the host routes, the network route and
the rules of the table, and the rules are left out if the router refuses the network route
(`MappingTable.made_install`).

What was asked and logged before makes no difference, since calls and log lines are only
ever appended (`MappingTable.install_behind`, `MappingTable.uninstall_behind`).
-/

set_option autoImplicit false

namespace FamilyGateway

variable {ρ : Type} {router : Router ρ}

/-- The state of a router after some calls. -/
def Router.after (router : Router ρ) (state : ρ) (calls : List RouteCall) : ρ :=
  calls.foldl (fun state call => (router state call).state) state

namespace Routing

/-! ## Calls that were made -/

/-- A routing has made some calls, and its router is where they have led it. -/
structure Made (router : Router ρ) (before : Routing ρ) (made : List RouteCall)
    (after : Routing ρ) : Prop where
  calls : after.calls = before.calls ++ made
  state : after.state = router.after before.state made

namespace Made

variable {before between after : Routing ρ} {made more : List RouteCall}

theorem nothing (routing : Routing ρ) : Made router routing [] routing :=
  ⟨(List.append_nil _).symm, rfl⟩

theorem trans (first : Made router before made between) (second : Made router between more after) :
    Made router before (made ++ more) after where
  calls := by rw [second.calls, first.calls, List.append_assoc]
  state := by rw [second.state, first.state, Router.after, Router.after, Router.after,
    List.foldl_append]

theorem note (first : Made router before made after) (line : LogLine) :
    Made router before made (after.note line) := ⟨first.calls, first.state⟩

end Made

theorem made_call (router : Router ρ) (routing : Routing ρ) (call : RouteCall) :
    Made router routing [call] (routing.call router call).1 := ⟨rfl, rfl⟩

theorem made_attempt (routing : Routing ρ) (call : RouteCall) (complaint : RouteError → LogLine) :
    Made router routing [call] (routing.attempt router call complaint) := by
  have asked := made_call router routing call
  unfold attempt
  split
  next answered => rwa [answered] at asked
  next error refused =>
    rw [refused] at asked
    exact asked.note (complaint error)

/-- A row of attempts makes its calls in order, whichever of them fail. -/
theorem made_attempts {κ : Type} (rows : List κ) (call : κ → RouteCall)
    (complaint : κ → RouteError → LogLine) (routing : Routing ρ) :
    Made router routing (rows.map call) (rows.foldl (fun routing row =>
      routing.attempt router (call row) (complaint row)) routing) := by
  induction rows generalizing routing with
  | nil => exact .nothing routing
  | cons row rows ih => exact (made_attempt routing (call row) (complaint row)).trans (ih _)

/-! ## What went before -/

/-- A routing behind another one: its calls and lines come after the other's. -/
def behind (earlier routing : Routing ρ) : Routing ρ :=
  ⟨routing.state, earlier.calls ++ routing.calls, earlier.log ++ routing.log⟩

theorem behind_start (routing : Routing ρ) : routing.behind (.start routing.state) = routing := by
  simp only [behind, start, List.append_nil]

theorem call_behind (earlier routing : Routing ρ) (call : RouteCall) :
    (earlier.behind routing).call router call =
      (earlier.behind (routing.call router call).1, (routing.call router call).2) := by
  simp only [Routing.call, behind, List.append_assoc]

theorem note_behind (earlier routing : Routing ρ) (line : LogLine) :
    (earlier.behind routing).note line = earlier.behind (routing.note line) := by
  simp only [note, behind, List.append_assoc]

theorem attempt_behind (earlier routing : Routing ρ) (call : RouteCall)
    (complaint : RouteError → LogLine) :
    (earlier.behind routing).attempt router call complaint =
      earlier.behind (routing.attempt router call complaint) := by
  rw [attempt, attempt, call_behind]
  cases routing.call router call with
  | mk after result =>
      cases result with
      | ok answered => rfl
      | error error => exact note_behind earlier after (complaint error)

theorem attempts_behind {κ : Type} (rows : List κ) (call : κ → RouteCall)
    (complaint : κ → RouteError → LogLine) (earlier routing : Routing ρ) :
    rows.foldl (fun routing row => routing.attempt router (call row) (complaint row))
        (earlier.behind routing) =
      earlier.behind (rows.foldl (fun routing row =>
        routing.attempt router (call row) (complaint row)) routing) := by
  induction rows generalizing routing with
  | nil => rfl
  | cons row rows ih => rw [List.foldl_cons, List.foldl_cons, attempt_behind, ih]

end Routing

namespace MappingTable

open Routing

variable {table : MappingTable}

/-! ## The calls of a table -/

/-- The calls for host routes. -/
def hostCalls (table : MappingTable) : List RouteCall :=
  table.entries.map fun entry => .addHost (.v4 entry.ipv4)

/-- The call for the network route, if a network is configured. -/
def networkCalls (table : MappingTable) : List RouteCall :=
  table.configured.toList.map fun network => .addNetwork (.v6 (.embed network .zero)) networkLength

/-- The calls for rules. -/
def ruleCalls (table : MappingTable) : List RouteCall :=
  table.peers.map fun entry => .addRule (.v6 entry.outer) Family.inet6.hostPrefixLength

/-- The calls that install a table, given how the one for the network route went. -/
def installCalls (table : MappingTable) : Except RouteError Unit → List RouteCall
  | .ok () => table.hostCalls ++ table.networkCalls ++ table.ruleCalls
  | .error _ => table.hostCalls ++ table.networkCalls

/-- The calls that remove everything. -/
def removalCalls : List RouteCall := [.removeAll .inet, .removeAll .inet6]

theorem made_installHosts (router : Router ρ) (table : MappingTable) (routing : Routing ρ) :
    Made router routing table.hostCalls (table.installHosts router routing) :=
  made_attempts table.entries _ _ routing

theorem made_installNetwork (router : Router ρ) (table : MappingTable) (routing : Routing ρ) :
    Made router routing table.networkCalls (table.installNetwork router routing).1 := by
  unfold installNetwork networkCalls
  cases table.configured with
  | some network => exact made_call router routing _
  | none =>
      dsimp only
      split
      · exact .nothing routing
      · exact (Made.nothing routing).note _

/-- Installing makes the calls of the table. -/
theorem made_install (router : Router ρ) (table : MappingTable) (routing : Routing ρ) :
    Made router routing (table.installCalls (table.install router routing).2)
      (table.install router routing).1 := by
  have hosts := made_installHosts router table routing
  have network := made_installNetwork router table (table.installHosts router routing)
  unfold install
  split
  next answered =>
    rw [answered] at network
    exact (hosts.trans network).trans (made_attempts table.peers _ _ _)
  next refused =>
    rw [refused] at network
    exact hosts.trans network

theorem made_uninstall (router : Router ρ) (routing : Routing ρ) :
    Made router routing removalCalls (uninstall router routing) :=
  made_attempts [Family.inet, Family.inet6] _ _ routing

/-- What a router in some state answers to the call for the network route, once it was asked for
the host routes. -/
def networkAnswer (table : MappingTable) (router : Router ρ) (state : ρ) :
    Except RouteError Unit :=
  match table.configured with
  | some network => (router (router.after state table.hostCalls)
      (.addNetwork (.v6 (.embed network .zero)) networkLength)).result
  | none => .ok ()

/-- Installing fails exactly if the router refuses the network route. -/
theorem snd_install (router : Router ρ) (table : MappingTable) (routing : Routing ρ) :
    (table.install router routing).2 = table.networkAnswer router routing.state := by
  have hosts := made_installHosts router table routing
  rw [networkAnswer, ← hosts.state]
  unfold install installNetwork
  cases table.configured with
  | none => rfl
  | some network =>
      simp only [Routing.call]
      cases (router (table.installHosts router routing).state
        (.addNetwork (.v6 (.embed network .zero)) networkLength)).result <;> rfl

theorem installNetwork_behind (router : Router ρ) (table : MappingTable)
    (earlier routing : Routing ρ) :
    table.installNetwork router (earlier.behind routing) =
      (earlier.behind (table.installNetwork router routing).1,
        (table.installNetwork router routing).2) := by
  unfold installNetwork
  cases table.configured with
  | some network => exact call_behind earlier routing _
  | none =>
      dsimp only
      split
      · rfl
      · rw [note_behind]

theorem install_behind (router : Router ρ) (table : MappingTable) (earlier routing : Routing ρ) :
    table.install router (earlier.behind routing) =
      (earlier.behind (table.install router routing).1, (table.install router routing).2) := by
  have hosts : table.installHosts router (earlier.behind routing) =
      earlier.behind (table.installHosts router routing) :=
    attempts_behind table.entries _ _ earlier routing
  rw [install, install, hosts, installNetwork_behind]
  cases table.installNetwork router (table.installHosts router routing) with
  | mk after result =>
      cases result with
      | ok answered => exact congrArg (·, _) (attempts_behind table.peers _ _ earlier after)
      | error error => rfl

theorem uninstall_behind (router : Router ρ) (earlier routing : Routing ρ) :
    uninstall router (earlier.behind routing) = earlier.behind (uninstall router routing) :=
  attempts_behind [Family.inet, Family.inet6] _ _ earlier routing

end MappingTable

end FamilyGateway
