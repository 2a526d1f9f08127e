import FamilyGateway.Proofs.Gateway.Restart
import FamilyGateway.Proofs.Gateway.Turns
import FamilyGateway.Proofs.Mapping.Pairs
import Mathlib.Data.Finset.Filter
import Mathlib.Data.Finset.Lattice.Lemmas

/-!
# Installed routes

Take a router that keeps a set: adding a route inserts it, and removing a family deletes
its members. What is in the set after some calls can be read off the calls alone
(`RouteCall.kept`), as long as none of them failed.

A turn does one of three things about routes (`Session.Reroutes`): it makes no call and
leaves the table alone, or it removes everything and installs the table that it has just
loaded, or it is the last turn and its last calls remove everything. So the set is that of
the table in force until the session ends, and empty afterwards
(`Session.routes_follow_table`). The last part does not depend on what the router answers.
-/

set_option autoImplicit false

namespace FamilyGateway

variable {ρ τ : Type}

/-! ## Routers that keep a set -/

namespace RouteCall

/-- The family that a route is installed for. Rules are there for IPv6 alone. -/
def family : RouteCall → Family
  | addHost address => address.family
  | addNetwork network _ => network.family
  | addRule _ _ => .inet6
  | removeAll family => family

/-- What is installed once a call was carried out. -/
def update (installed : Finset RouteCall) : RouteCall → Finset RouteCall
  | removeAll family => installed.filter fun route => route.family ≠ family
  | route => insert route installed

/-- What is installed once some calls were carried out. -/
def kept (calls : List RouteCall) : Finset RouteCall := calls.foldl update ∅

/-- Calls that remove nothing add to what is installed. -/
theorem foldl_update {calls : List RouteCall} (adds : ∀ family, removeAll family ∉ calls)
    (installed : Finset RouteCall) :
    calls.foldl update installed = installed ∪ calls.toFinset := by
  induction calls generalizing installed with
  | nil => simp only [List.foldl_nil, List.toFinset_nil, Finset.union_empty]
  | cons call calls ih =>
      have inserted : update installed call = insert call installed := by
        cases call with
        | removeAll family => exact absurd List.mem_cons_self (adds family)
        | addHost address => rfl
        | addNetwork network length => rfl
        | addRule network length => rfl
      rw [List.foldl_cons, inserted, ih fun family among => adds family (.tail _ among),
        List.toFinset_cons, Finset.insert_union, Finset.union_insert]

end RouteCall

namespace Router

variable {router : Router ρ} {installed : ρ → Finset RouteCall}

/-- A router keeps a set: each call that does not fail changes it accordingly. -/
def Keeps (router : Router ρ) (installed : ρ → Finset RouteCall) : Prop :=
  ∀ state call, (router state call).result = .ok () →
    installed (router state call).state = call.update (installed state)

/-- None of some calls fails. -/
def Grants (router : Router ρ) : ρ → List RouteCall → Prop
  | _, [] => True
  | state, call :: calls =>
    (router state call).result = .ok () ∧ router.Grants (router state call).state calls

/-- A router that never refuses a call grants any calls. -/
theorem grants_of_always (always : ∀ state call, (router state call).result = .ok ())
    (state : ρ) (calls : List RouteCall) : router.Grants state calls := by
  induction calls generalizing state with
  | nil => trivial
  | cons call calls ih => exact ⟨always state call, ih _⟩

/-- What a router has installed can be read off the calls, if none of them failed. -/
theorem Keeps.after (keeps : router.Keeps installed) {calls : List RouteCall} {state : ρ}
    (grants : router.Grants state calls) :
    installed (router.after state calls) = calls.foldl RouteCall.update (installed state) := by
  induction calls generalizing state with
  | nil => rfl
  | cons call calls ih =>
      obtain ⟨granted, grants⟩ := grants
      rw [List.foldl_cons, ← keeps state call granted]
      exact ih grants

end Router

/-! ## The routes of a table -/

namespace MappingTable

/-- The routes that a table asks for: a host route to the IPv4 address of each pair, the network
route if a network is configured, and a rule for the global address of each pair within IPv6. -/
def routes (table : MappingTable) : Finset RouteCall :=
  (table.hostCalls ++ table.networkCalls ++ table.ruleCalls).toFinset

theorem removeAll_notMem_calls (table : MappingTable) (family : Family) :
    .removeAll family ∉ table.hostCalls ++ table.networkCalls ++ table.ruleCalls := by
  simp [hostCalls, networkCalls, ruleCalls]

/-- Nothing is installed after everything was removed. -/
theorem kept_removal (calls : List RouteCall) : RouteCall.kept (calls ++ removalCalls) = ∅ := by
  simp only [RouteCall.kept, List.foldl_append, removalCalls, List.foldl_cons, List.foldl_nil,
    RouteCall.update, Finset.filter_filter, Finset.filter_eq_empty_iff]
  intro route _ neither
  cases belongs : route.family with
  | inet => exact neither.1 belongs
  | inet6 => exact neither.2 belongs

/-- Where nothing was installed, a table's calls install its routes. -/
theorem kept_install {calls : List RouteCall} (nothing : RouteCall.kept calls = ∅)
    (table : MappingTable) :
    RouteCall.kept (calls ++ table.installCalls (.ok ())) = table.routes := by
  rw [RouteCall.kept, List.foldl_append]
  change (table.installCalls _).foldl RouteCall.update (RouteCall.kept calls) = _
  rw [nothing, installCalls, RouteCall.foldl_update (removeAll_notMem_calls table),
    Finset.empty_union, routes]

end MappingTable

namespace Session

open MappingTable

variable {host : Host ρ τ} {session next : Session ρ τ}

/-! ## What a turn does about routes -/

/-- A start that succeeds makes the calls of the table that it leads to. -/
theorem Begins.of_ok (begins : Begins host session next (.ok ())) :
    session.routing.Made host.router (next.table.installCalls (.ok ())) next.routing := by
  generalize succeeded : (.ok () : Except GatewayError Unit) = result at begins
  cases begins with
  | unreadable => cases succeeded
  | tooDeep => cases succeeded
  | @loaded _ outcome _ _ _ gateway made =>
      have table : next.table = outcome.table := by rw [Session.table, gateway]; rfl
      rw [table]
      cases answered : outcome.table.networkAnswer host.router session.router with
      | ok => rwa [answered] at made
      | error error => rw [answered] at succeeded; cases succeeded

/-- What a turn does about routes, given how the session ends with it, if it does. -/
inductive Reroutes (router : Router ρ) (before after : Session ρ τ) :
    Option (Except GatewayError Unit) → Prop where
  /-- The table stays in force. -/
  | stays (made : before.routing.Made router [] after.routing)
      (table : after.table = before.table) :
      Reroutes router before after none
  /-- Another table comes into force. -/
  | renews (made : before.routing.Made router
      (removalCalls ++ after.table.installCalls (.ok ())) after.routing) :
      Reroutes router before after none
  /-- The session ends. -/
  | removes {earlier : List RouteCall} {ending : Except GatewayError Unit}
      (made : before.routing.Made router (earlier ++ removalCalls) after.routing) :
      Reroutes router before after (some ending)

/-- A session may end with nothing but the removal of all routes. -/
theorem Reroutes.removed {router : Router ρ} {before after : Session ρ τ}
    (made : before.routing.Made router removalCalls after.routing)
    {ending : Except GatewayError Unit} : Reroutes router before after (some ending) := by
  rw [← List.nil_append removalCalls] at made
  exact .removes made

/-- What was logged makes no difference to the removal of routes. -/
theorem made_shutdown_noted (host : Host ρ τ) (session : Session ρ τ) (lines : List LogLine) :
    session.routing.Made host.router removalCalls
      ((session.note lines).shutdown host).routing := by
  have removed := made_shutdown host (session.note lines)
  exact ⟨removed.calls, removed.state⟩

/-- A packet makes no difference to the routes. -/
theorem reroutes_handlePacket (host : Host ρ τ) (session : Session ρ τ) (family : Family)
    (bytes : Bytes) :
    Reroutes host.router session (session.handlePacket host family bytes) none := by
  obtain ⟨attempts, lines, tries⟩ := tries_handlePacket host session family bytes rfl
  refine .stays ⟨?_, tries.router⟩ ?_
  · rw [List.append_nil]
    exact tries.calls
  · rw [table, tries.gateway]
    exact Translator.table_translate _ _ _ _

/-- Every turn does one of these things. -/
theorem reroutes_takeTurn (host : Host ρ τ) (session : Session ρ τ) (turn : Turn) :
    Reroutes host.router session (session.takeTurn host turn).1 (session.takeTurn host turn).2 := by
  cases turn with
  | hangUp => exact .removed (made_shutdown host session)
  | arrival arrival =>
      cases arrival with
      | packet family bytes => exact reroutes_handlePacket host session family bytes
      | failure reason => exact .removed (made_shutdown_noted host session [readFailure reason])
  | request request =>
      cases request with
      | shutdown => exact .removed (made_shutdown host session)
      | reload =>
          have removed := made_shutdown host session
          have begins := begins_start host (session.shutdown host)
          unfold takeTurn reload
          generalize (session.shutdown host).start host = ended at begins ⊢
          obtain ⟨next, result⟩ := ended
          cases result with
          | ok => exact .renews (removed.trans begins.of_ok)
          | error error =>
              obtain ⟨made, begun⟩ := begins.made
              have stopped := made_shutdown_noted host next [reloadFailure error]
              exact .removes ((removed.trans begun).trans stopped)

/-! ## Whole runs -/

/-- What the calls made since some time have come to. -/
structure Routed (router : Router ρ) (before : Session ρ τ) (service : Service ρ τ)
    (calls : List RouteCall) : Prop where
  made : before.routing.Made router calls service.session.routing
  /-- If the routes were those of the table in force, they still are. -/
  serving (goesOn : service.ending = none)
    (follow : RouteCall.kept before.calls = before.table.routes) :
    RouteCall.kept service.session.calls = service.session.table.routes
  ended (finished : service.ending.isSome) : ∃ earlier, calls = earlier ++ removalCalls

theorem Routed.supply {router : Router ρ} {before : Session ρ τ} {service : Service ρ τ}
    {calls : List RouteCall} (routed : Routed router before service calls) (waiting : Waiting) :
    Routed router before { service with waiting := waiting } calls :=
  ⟨routed.made, routed.serving, routed.ended⟩

/-- What a turn does about routes fits what was done before. -/
theorem Routed.turn {router : Router ρ} {before session after : Session ρ τ}
    {waiting rest : Waiting} {calls : List RouteCall}
    (routed : Routed router before ⟨session, waiting, none⟩ calls)
    {ending : Option (Except GatewayError Unit)} (reroutes : Reroutes router session after ending) :
    ∃ calls, Routed router before ⟨after, rest, ending⟩ calls := by
  cases reroutes with
  | stays more same =>
      refine ⟨_, routed.made.trans more, fun _ follow => ?_, fun finished => nomatch finished⟩
      have calls : after.calls = session.calls := more.calls.trans (List.append_nil _)
      change RouteCall.kept after.calls = after.table.routes
      rw [calls, same]
      exact routed.serving rfl follow
  | renews more =>
      refine ⟨_, routed.made.trans more, fun _ _ => ?_, fun finished => nomatch finished⟩
      have calls : after.calls = session.calls ++ removalCalls ++
          after.table.installCalls (.ok ()) := by
        rw [List.append_assoc]
        exact more.calls
      change RouteCall.kept after.calls = after.table.routes
      rw [calls, kept_install (kept_removal _)]
  | removes more =>
      exact ⟨_, routed.made.trans more, fun goesOn => (nomatch goesOn),
        fun _ => ⟨_, (List.append_assoc ..).symm⟩⟩

/-- Whatever happens to a session that serves, its calls fit what is in force. -/
theorem routed_run (host : Host ρ τ) {service : Service ρ τ} (serving : service.ending = none)
    (moments : List Moment) :
    ∃ calls, Routed host.router service.session (service.run host moments) calls := by
  refine Service.run_induction
    (motive := fun reached => ∃ calls, Routed host.router service.session reached calls)
    (fun reached supply => ?_) (fun files surroundings session waiting rest turn _ => ?_) moments
    ⟨[], .nothing _, fun _ follow => follow, fun finished => ?_⟩
  · rintro ⟨calls, routed⟩
    exact ⟨calls, routed.supply _⟩
  · rintro ⟨calls, routed⟩
    exact routed.turn (reroutes_takeTurn (host.within files surroundings) session turn)
  · rw [serving] at finished
    cases finished

/-- What is installed is what the table in force asks for, and nothing once the session has
ended. -/
def Service.Tracks (installed : ρ → Finset RouteCall) (service : Service ρ τ) : Prop :=
  installed service.session.router =
    if service.ending.isNone then service.session.table.routes else ∅

/-- What holds of the routes of a session that serves through some moments. -/
structure RoutesFollowTable (host : Host ρ τ) (moments : List Moment) : Prop where
  /-- After a start that succeeds, a router that keeps a set and refuses none of the calls has
  installed what the table in force asks for whenever a packet can be read, and nothing once the
  session has ended. -/
  tracks (gateway : Gateway) (state : ρ) (device : τ) {started : Session ρ τ}
    (starts : (fresh gateway state device).start host = (started, .ok ()))
    {installed : ρ → Finset RouteCall} (keeps : host.router.Keeps installed)
    (nothing : installed state = ∅)
    (granted : host.router.Grants state
      ((Service.opening started).run host moments).session.calls) :
    ((Service.opening started).run host moments).Tracks installed
  /-- Whatever the router answers, the last calls of a session that ends remove all routes. -/
  removes {service : Service ρ τ} (serving : service.ending = none)
    (finished : (service.run host moments).ending.isSome) :
    ∃ made, (service.run host moments).session.calls =
      service.session.calls ++ made ++ [.removeAll .inet, .removeAll .inet6]

/-- **Installed routes are those of the table in force and do not outlive the session**, whatever
becomes available and whichever files change in between. -/
theorem routes_follow_table (host : Host ρ τ) (moments : List Moment) :
    RoutesFollowTable host moments where
  tracks gateway state device started starts installed keeps nothing granted := by
    have begun : (fresh gateway state device).routing.Made host.router
        (started.table.installCalls (.ok ())) started.routing := by
      have begins := begins_start host (fresh gateway state device)
      rw [starts] at begins
      exact begins.of_ok
    have atFirst : RouteCall.kept started.calls = started.table.routes := by
      have calls : started.calls = _ := begun.calls
      rw [calls]
      exact kept_install rfl started.table
    have serving : (Service.opening started).ending = none := rfl
    obtain ⟨calls, routed⟩ := routed_run host serving moments
    have whole := begun.trans routed.made
    generalize (Service.opening started).run host moments = service at granted routed whole ⊢
    -- The set is what the calls come to, since none of them failed.
    have kept : installed service.session.router = RouteCall.kept service.session.calls := by
      have calls : service.session.calls = _ := whole.calls
      have state : service.session.router = _ := whole.state
      rw [calls] at granted
      rw [state, calls, RouteCall.kept, ← nothing]
      exact keeps.after granted
    rw [Service.Tracks, kept]
    cases ending : service.ending with
    | none => exact routed.serving ending atFirst
    | some result =>
        obtain ⟨earlier, rfl⟩ := routed.ended (Option.isSome_of_eq_some ending)
        have calls : service.session.calls = _ := whole.calls
        rw [calls, ← List.append_assoc _ earlier removalCalls]
        exact kept_removal _
  removes {service} serving finished := by
    obtain ⟨calls, routed⟩ := routed_run host serving moments
    obtain ⟨earlier, rfl⟩ := routed.ended finished
    refine ⟨earlier, ?_⟩
    rw [List.append_assoc]
    exact routed.made.calls

end Session

namespace Sample

open Session

/-- A configuration with a line of each kind. -/
def configuration : FileReader := fun path =>
  if path = "map646.conf" then
    .ok "mapping-prefix 64:ff9b::\nmap-static 192.0.2.10 2001:db8::10\nmap66-static fd00::1 2001:db8:1::1\n"
  else .error (.system .notFound)

/-- The lines of the configuration. -/
def configurationLines : List Directive :=
  [⟨some "map646.conf", 1, .mappingPrefix "64:ff9b::"⟩,
    ⟨some "map646.conf", 2, .mapStatic "192.0.2.10" "2001:db8::10"⟩,
    ⟨some "map646.conf", 3, .map66Static "fd00::1" "2001:db8:1::1"⟩]

theorem load_configurationLines : ∃ warnings,
    MappingTable.load configuration .empty configurationLines =
      ⟨translator.table, warnings, none⟩ := by
  have plain : ∀ directive ∈ configurationLines, ∀ path, directive.kind ≠ .includeFile path := by
    simp [configurationLines]
  have effect : configurationLines.foldl (fun table directive => (table.apply directive.kind).1)
      .empty = translator.table := by
    decide +kernel
  obtain ⟨warnings, loaded⟩ := MappingTable.loadWithin_append configuration plain includeDepthLimit
    .empty []
  refine ⟨warnings ++ [], ?_⟩
  rw [List.append_nil] at loaded
  rw [MappingTable.load, loaded, effect, MappingTable.loadWithin]
  rfl

/-- A router that does nothing but keep the set, and a device that sends nothing. -/
def keeper : Host (Finset RouteCall) Unit where
  router := fun installed call => ⟨call.update installed, [], .ok ()⟩
  send := fun _ _ => ((), .error "no buffer space")
  files := configuration
  surroundings := surroundings

/-- A gateway with an empty table. -/
def unloaded : Gateway := ⟨"map646.conf", .fresh .standard 10⟩

theorem start_keeper : ∃ started, (fresh unloaded ∅ ()).start keeper = (started, .ok ()) ∧
    started.table = translator.table := by
  have reads : Directive.ofFile keeper.files
      (fresh unloaded (∅ : Finset RouteCall) ()).gateway.configPath =
        .ok configurationLines := rfl
  obtain ⟨warnings, loaded⟩ := load_configurationLines
  rw [start_of_whole reads loaded rfl]
  exact ⟨_, rfl, rfl⟩

end Sample

namespace Session

open Sample

/-- The routes of the configuration are installed once the session has started, and gone once it has
ended. -/
theorem routes_follow_table_keeper : ∃ started,
    (fresh unloaded ∅ ()).start keeper = (started, .ok ()) ∧
    started.router = {.addHost (.v4 ⟨192, 0, 2, 10⟩),
      .addNetwork (.v6 ⟨⟨0x64, 0xff9b, 0, 0, 0, 0⟩, ⟨0, 0, 0, 0⟩⟩) 96,
      .addRule (.v6 ⟨⟨0x2001, 0xdb8, 1, 0, 0, 0⟩, ⟨0, 0, 0, 1⟩⟩) 128} ∧
    ((Service.opening started).run keeper [.supply (.request .shutdown),
      .turns configuration surroundings 1]).session.router = ∅ := by
  obtain ⟨started, starts, table⟩ := start_keeper
  have keeps : keeper.router.Keeps id := fun _ _ _ => rfl
  have grants : ∀ calls, keeper.router.Grants ∅ calls :=
    Router.grants_of_always (fun _ _ => rfl) ∅
  have first : started.router = started.table.routes :=
    (routes_follow_table keeper []).tracks unloaded ∅ () starts keeps rfl (grants _)
  refine ⟨started, starts, ?_, ?_⟩
  · rw [first, table]
    decide
  · exact (routes_follow_table keeper _).tracks unloaded ∅ () starts keeps rfl (grants _)

end Session

end FamilyGateway
