import FamilyGateway.Proofs.Gateway.InstalledRoutes
import FamilyGateway.Proofs.Mapping.Inlining

/-!
# Calls that a router refuses

A router may refuse any of the calls with which a table is installed. A refused host route
or rule is complained about once, next to what the router itself has to say
(`RouterAnswer.lines`), and the calls after it are made all the same. Only a refused
network route ends the installation (`MappingTable.InstallsDespiteRefusals`).

So a start fails at its routes for that reason alone, and the table that was loaded stays
(`Session.StartsDespiteRefusals`).
-/

set_option autoImplicit false

namespace FamilyGateway

variable {ρ τ : Type}

/-! ## Answers -/

/-- The answers to some calls that are made one after the other. -/
def Router.answers (router : Router ρ) (state : ρ) : List RouteCall → List (RouterAnswer ρ)
  | [] => []
  | call :: calls => router state call :: router.answers (router state call).state calls

/-- What an attempt leaves in the log: the router's own lines, and a complaint if it is refused. -/
def RouterAnswer.lines (complaint : RouteError → LogLine) (answer : RouterAnswer ρ) :
    List LogLine :=
  answer.log ++ match answer.result with
    | .ok () => []
    | .error error => [complaint error]

/-- What a row of attempts leaves in the log, given the answer to each. -/
def attemptLines {κ : Type} (complaint : κ → RouteError → LogLine) (rows : List κ)
    (answers : List (RouterAnswer ρ)) : List LogLine :=
  (rows.zip answers).flatMap fun (row, answer) => answer.lines (complaint row)

namespace Routing

variable {router : Router ρ}

theorem log_attempt (routing : Routing ρ) (call : RouteCall) (complaint : RouteError → LogLine) :
    (routing.attempt router call complaint).log =
      routing.log ++ (router routing.state call).lines complaint := by
  simp only [attempt, Routing.call, RouterAnswer.lines]
  cases (router routing.state call).result with
  | ok answered => rw [List.append_nil]
  | error error => exact List.append_assoc ..

/-- A row of attempts is made to its end, with one complaint about each that is refused. -/
theorem log_attempts {κ : Type} (rows : List κ) (call : κ → RouteCall)
    (complaint : κ → RouteError → LogLine) (routing : Routing ρ) :
    (rows.foldl (fun routing row =>
        routing.attempt router (call row) (complaint row)) routing).log =
      routing.log ++
        attemptLines complaint rows (router.answers routing.state (rows.map call)) := by
  induction rows generalizing routing with
  | nil => exact (List.append_nil _).symm
  | cons row rows ih =>
      have state : (routing.attempt router (call row) (complaint row)).state =
          (router routing.state (call row)).state :=
        (made_attempt routing (call row) (complaint row)).state
      rw [List.foldl_cons, ih, log_attempt, state, List.append_assoc]
      rfl

end Routing

namespace MappingTable

open Routing

variable {router : Router ρ} {table : MappingTable}

/-! ## Installing -/

/-- A network is configured, and a router in some state that is asked for the host routes first
refuses the route to it. -/
def NetworkRefused (table : MappingTable) (router : Router ρ) (state : ρ) (error : RouteError) :
    Prop :=
  ∃ network, table.configured = some network ∧
    (router (router.after state table.hostCalls)
      (.addNetwork (.v6 (.embed network .zero)) 96)).result = .error error

/-- What the route to the network leaves in the log, or that there is none to be installed. -/
def networkLines (table : MappingTable) (router : Router ρ) (state : ρ) : List LogLine :=
  match table.configured with
  | some network => (router (router.after state table.hostCalls)
      (.addNetwork (.v6 (.embed network .zero)) 96)).log
  | none => if table.entries = [] then [] else [unconfiguredWarning]

/-- What becomes of an installation, whichever calls the router refuses. -/
structure InstallsDespiteRefusals (router : Router ρ) (table : MappingTable)
    (before after : Routing ρ) (result : Except RouteError Unit) : Prop where
  /-- All host routes are asked for, then the network if one is configured, and then, unless that
  is refused, all rules. -/
  calls : after.calls = before.calls ++
    (table.entries.map fun entry => .addHost (.v4 entry.ipv4)) ++
    (table.configured.toList.map fun network => .addNetwork (.v6 (.embed network .zero)) 96) ++
    (if result.isOk then table.peers.map fun entry => .addRule (.v6 entry.outer) 128 else [])
  /-- It fails exactly if the network is refused, and with the router's error. -/
  fails (error : RouteError) :
    result = .error error ↔ table.NetworkRefused router before.state error
  /-- There is one complaint about each host route and each rule that is refused. -/
  log : after.log = before.log ++
    attemptLines (fun entry => hostRouteComplaint entry.ipv4) table.entries
      (router.answers before.state table.hostCalls) ++
    table.networkLines router before.state ++
    (if result.isOk then
      attemptLines (fun entry => ruleComplaint entry.outer) table.peers
        (router.answers (router.after before.state (table.hostCalls ++ table.networkCalls))
          table.ruleCalls)
    else [])

theorem networkAnswer_eq_error_iff {state : ρ} {error : RouteError} :
    table.networkAnswer router state = .error error ↔ table.NetworkRefused router state error := by
  rw [networkAnswer, NetworkRefused]
  cases table.configured with
  | none => simp
  | some network => simp [networkLength]

theorem log_installNetwork (router : Router ρ) (table : MappingTable) (routing : Routing ρ) :
    (table.installNetwork router (table.installHosts router routing)).1.log =
      (table.installHosts router routing).log ++ table.networkLines router routing.state := by
  have hosts := made_installHosts router table routing
  rw [networkLines, installNetwork, ← hosts.state]
  cases table.configured with
  | some network => rfl
  | none =>
      by_cases none : table.entries = []
      · simp [none]
      · simp [none, note]

theorem log_install (router : Router ρ) (table : MappingTable) (routing : Routing ρ) :
    (table.install router routing).1.log = routing.log ++
      attemptLines (fun entry => hostRouteComplaint entry.ipv4) table.entries
        (router.answers routing.state table.hostCalls) ++
      table.networkLines router routing.state ++
      (if (table.install router routing).2.isOk then
        attemptLines (fun entry => ruleComplaint entry.outer) table.peers
          (router.answers (router.after routing.state (table.hostCalls ++ table.networkCalls))
            table.ruleCalls)
      else []) := by
  have hosts := made_installHosts router table routing
  have network := hosts.trans (made_installNetwork router table (table.installHosts router routing))
  have hostLog : (table.installHosts router routing).log = routing.log ++
      attemptLines (fun entry => hostRouteComplaint entry.ipv4) table.entries
        (router.answers routing.state table.hostCalls) :=
    log_attempts table.entries _ _ routing
  have networkLog := log_installNetwork router table routing
  rw [hostLog] at networkLog
  rw [← network.state, ← networkLog, install]
  generalize table.installNetwork router (table.installHosts router routing) = asked
  rcases asked with ⟨asked, error | answered⟩
  · exact (List.append_nil _).symm
  · exact log_attempts table.peers _ _ asked

theorem installs_despite_refusals (router : Router ρ) (table : MappingTable)
    (routing : Routing ρ) :
    table.InstallsDespiteRefusals router routing (table.install router routing).1
      (table.install router routing).2 where
  calls := by
    rw [(made_install router table routing).calls]
    cases (table.install router routing).2 with
    | ok answered =>
        rw [installCalls, ← List.append_assoc, ← List.append_assoc]
        rfl
    | error error =>
        rw [installCalls, ← List.append_assoc]
        exact (List.append_nil _).symm
  fails error := by rw [snd_install, networkAnswer_eq_error_iff]
  log := log_install router table routing

end MappingTable

namespace Session

open MappingTable

variable {host : Host ρ τ} {session : Session ρ τ}

/-! ## Starting -/

/-- What becomes of a start whose directives can be loaded, whichever calls the router refuses. -/
structure StartsDespiteRefusals (host : Host ρ τ) (session : Session ρ τ)
    (directives : List Directive) : Prop where
  /-- The load is not cut short, -/
  whole : (load host.files .empty directives).failure = none
  /-- and its table is in force, even if the start fails. -/
  table : (session.start host).1.gateway =
    session.gateway.withTable (load host.files .empty directives).table
  /-- The start fails exactly if the network is refused, and with the router's error. -/
  fails (failure : GatewayError) : (session.start host).2 = .error failure ↔
    ∃ error, (load host.files .empty directives).table.NetworkRefused host.router session.router
      error ∧ failure = .config (.route error)
  /-- It makes the calls and the complaints of the installation. -/
  installs : ∃ result, (session.start host).2 = result.mapError (.config ∘ .route) ∧
    (load host.files .empty directives).table.InstallsDespiteRefusals host.router
      (session.note (load host.files .empty directives).log).routing
      (session.start host).1.routing result

theorem starts_despite_refusals {directives : List Directive}
    (reads : Directive.ofFile host.files session.gateway.configPath = .ok directives)
    (within : ¬IncludesBelow host.files includeDepthLimit directives) :
    session.StartsDespiteRefusals host directives := by
  have whole : (load host.files .empty directives).failure = none := by
    rwa [← isSome_failure_iff host.files includeDepthLimit .empty, Option.not_isSome_iff_eq_none]
      at within
  have starts : session.start host = _ := start_of_whole reads rfl whole
  have installs := installs_despite_refusals host.router (load host.files .empty directives).table
    (session.note (load host.files .empty directives).log).routing
  constructor
  case whole => exact whole
  case table =>
    rw [starts]
    rfl
  case fails =>
    intro failure
    have reported (result : Except RouteError Unit) :
        result.mapError (.config ∘ .route) = .error failure ↔
          ∃ error, result = .error error ∧ failure = .config (.route error) := by
      cases result with
      | ok answered => simp [Except.mapError]
      | error error => simp [Except.mapError, eq_comm]
    rw [starts, reported]
    exact exists_congr fun error => and_congr_left' (installs.fails error)
  case installs =>
    refine ⟨_, by rw [starts], ?_⟩
    rw [starts]
    exact installs

/-- What a router's refusals come to. -/
structure StopsOnlyAtNetwork (host : Host ρ τ) : Prop where
  /-- Whatever is refused, a table is installed as far as the network allows. -/
  install (table : MappingTable) (before : Routing ρ) :
    table.InstallsDespiteRefusals host.router before (table.install host.router before).1
      (table.install host.router before).2
  /-- So is the table of a configuration that can be read and does not nest includes too deep. -/
  start (session : Session ρ τ) {text : String}
    (reads : host.files session.gateway.configPath = .ok text) {directives : List Directive}
    (parsed : Directive.parse (some session.gateway.configPath) text = directives)
    (within : ¬IncludesBelow host.files includeDepthLimit directives) :
    session.StartsDespiteRefusals host directives

/-- **Only a refused network route stops an installation or a start**, and it costs no part of the
table. -/
theorem only_network_refusal_stops (host : Host ρ τ) : StopsOnlyAtNetwork host where
  install := installs_despite_refusals host.router
  start session text reads directives parsed within := by
    refine starts_despite_refusals ?_ within
    rw [Directive.ofFile, reads, ← parsed]

end Session

namespace Sample

/-- A router that refuses every call and says so in its own log. -/
def refuser : Host Unit Unit where
  router := fun _ call => ⟨(), [.warn call.text], .error ⟨"refused"⟩⟩
  send := fun _ _ => ((), .error "no buffer space")
  files := configuration
  surroundings := surroundings

theorem not_includesBelow_configuration :
    ¬IncludesBelow configuration includeDepthLimit configurationLines := by
  obtain ⟨warnings, loaded⟩ := load_configurationLines
  rw [MappingTable.load] at loaded
  rw [← MappingTable.isSome_failure_iff configuration includeDepthLimit .empty, loaded]
  exact Bool.false_ne_true

end Sample

namespace Session

open Sample MappingTable

/-- Host routes, network route and rules are refused: the rules are not asked for, and the table is
there. -/
theorem only_network_refusal_stops_refuser :
    ((fresh unloaded () ()).start refuser).2 = .error (.config (.route ⟨"refused"⟩)) ∧
      ((fresh unloaded () ()).start refuser).1.table = translator.table ∧
      ((fresh unloaded () ()).start refuser).1.calls = [.addHost (.v4 ⟨192, 0, 2, 10⟩),
        .addNetwork (.v6 ⟨network, ⟨0, 0, 0, 0⟩⟩) 96] := by
  have starts : (fresh unloaded () ()).StartsDespiteRefusals refuser configurationLines :=
    (only_network_refusal_stops refuser).start _ rfl rfl not_includesBelow_configuration
  obtain ⟨warnings, loaded⟩ := load_configurationLines
  have table : (load refuser.files .empty configurationLines).table = translator.table :=
    congrArg LoadOutcome.table loaded
  have refused : ((fresh unloaded () ()).start refuser).2 =
      .error (.config (.route ⟨"refused"⟩)) := by
    refine (starts.fails _).mpr ⟨⟨"refused"⟩, ?_, rfl⟩
    rw [table]
    exact ⟨network, rfl, rfl⟩
  refine ⟨refused, (congrArg (·.translator.table) starts.table).trans table, ?_⟩
  obtain ⟨result, ended, installs⟩ := starts.installs
  rw [refused] at ended
  cases result with
  | ok answered => cases ended
  | error error =>
      rw [table] at installs
      exact installs.calls

end Session

end FamilyGateway
