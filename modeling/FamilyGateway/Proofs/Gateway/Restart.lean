import FamilyGateway.Gateway
import FamilyGateway.Proofs.Routing.Calls

/-!
# Starting over

A session starts in one of three ways (`Session.Begins`): its configuration cannot be
read, or includes are nested too deep, or the table is loaded and the router is asked for
its routes. Each way says what becomes of the gateway, which calls are made and what is
reported.

A reload removes all routes and starts over. Of the gateway nothing but the table changes,
and what it comes to is what a gateway with an empty table comes to that starts with the
same files (`Session.reload_like_fresh`).
-/

set_option autoImplicit false

namespace FamilyGateway

variable {ρ τ : Type}

/-- What a router answers depends on nothing but the call. -/
def Router.Memoryless (router : Router ρ) : Prop :=
  ∃ answer : RouteCall → Except RouteError Unit,
    ∀ state call, (router state call).result = answer call

theorem MappingTable.networkAnswer_memoryless {router : Router ρ} (memoryless : router.Memoryless)
    (table : MappingTable) (state other : ρ) :
    table.networkAnswer router state = table.networkAnswer router other := by
  obtain ⟨answer, answers⟩ := memoryless
  unfold networkAnswer
  split
  · rw [answers, answers]
  · rfl

namespace Gateway

variable {files : FileReader} {gateway : Gateway}

theorem loadConfig_of_unreadable {error : ReadError}
    (fails : Directive.ofFile files gateway.configPath = .error error) :
    gateway.loadConfig files = (gateway, [], .error (.unreadable error)) := by
  unfold loadConfig
  rw [fails]

theorem loadConfig_of_tooDeep {directives : List Directive} {outcome : MappingTable.LoadOutcome}
    {error : IncludeTooDeep}
    (reads : Directive.ofFile files gateway.configPath = .ok directives)
    (loaded : MappingTable.load files .empty directives = outcome)
    (fails : outcome.failure = some error) :
    gateway.loadConfig files =
      (gateway.withTable outcome.table, outcome.log, .error (.includeTooDeep error)) := by
  subst loaded
  simp only [loadConfig, reads, fails]

theorem loadConfig_of_whole {directives : List Directive} {outcome : MappingTable.LoadOutcome}
    (reads : Directive.ofFile files gateway.configPath = .ok directives)
    (loaded : MappingTable.load files .empty directives = outcome)
    (whole : outcome.failure = none) :
    gateway.loadConfig files = (gateway.withTable outcome.table, outcome.log, .ok ()) := by
  subst loaded
  simp only [loadConfig, reads, whole]

end Gateway

namespace Session

variable {host : Host ρ τ} {session next : Session ρ τ}

/-! ## Starting -/

/-- The ways in which a session starts, with what becomes of it and what is reported. -/
inductive Begins (host : Host ρ τ) (session next : Session ρ τ) :
    Except GatewayError Unit → Prop where
  /-- The configuration cannot be read. -/
  | unreadable {error : ReadError}
      (fails : Directive.ofFile host.files session.gateway.configPath = .error error)
      (gateway : next.gateway = session.gateway)
      (made : session.routing.Made host.router [] next.routing) :
      Begins host session next (.error (.config (.unreadable error)))
  /-- Includes are nested too deep. -/
  | tooDeep {directives : List Directive} {outcome : MappingTable.LoadOutcome}
      {error : IncludeTooDeep}
      (reads : Directive.ofFile host.files session.gateway.configPath = .ok directives)
      (loaded : MappingTable.load host.files .empty directives = outcome)
      (fails : outcome.failure = some error)
      (gateway : next.gateway = session.gateway.withTable outcome.table)
      (made : session.routing.Made host.router [] next.routing) :
      Begins host session next (.error (.config (.includeTooDeep error)))
  /-- The table is loaded and the router is asked for its routes. -/
  | loaded {directives : List Directive} {outcome : MappingTable.LoadOutcome}
      (reads : Directive.ofFile host.files session.gateway.configPath = .ok directives)
      (loaded : MappingTable.load host.files .empty directives = outcome)
      (whole : outcome.failure = none)
      (gateway : next.gateway = session.gateway.withTable outcome.table)
      (made : session.routing.Made host.router
        (outcome.table.installCalls (outcome.table.networkAnswer host.router session.router))
        next.routing) :
      Begins host session next
        ((outcome.table.networkAnswer host.router session.router).mapError (.config ∘ .route))

/-- The session with what a load has led to. -/
def withLoaded (session : Session ρ τ) (outcome : MappingTable.LoadOutcome) : Session ρ τ :=
  ({ session with gateway := session.gateway.withTable outcome.table } : Session ρ τ).note
    outcome.log

/-- A start whose configuration is loaded ends as the installation of the routes does. -/
theorem start_of_whole {directives : List Directive} {outcome : MappingTable.LoadOutcome}
    (reads : Directive.ofFile host.files session.gateway.configPath = .ok directives)
    (loaded : MappingTable.load host.files .empty directives = outcome)
    (whole : outcome.failure = none) :
    session.start host =
      ((session.withLoaded outcome).withRouting
          (outcome.table.install host.router (session.withLoaded outcome).routing).1,
        (outcome.table.install host.router (session.withLoaded outcome).routing).2.mapError
          (.config ∘ .route)) := by
  simp only [start, Gateway.loadConfig_of_whole reads loaded whole, withLoaded, Gateway.withTable]
  generalize outcome.table.install host.router _ = installed
  obtain ⟨routing, result⟩ := installed
  cases result <;> rfl

/-- Every start goes one of these ways. -/
theorem begins_start (host : Host ρ τ) (session : Session ρ τ) :
    Begins host session (session.start host).1 (session.start host).2 := by
  cases found : Directive.ofFile host.files session.gateway.configPath with
  | error error =>
      simp only [start, Gateway.loadConfig_of_unreadable found]
      exact .unreadable found rfl ⟨(List.append_nil _).symm, rfl⟩
  | ok directives =>
      obtain ⟨outcome, loaded⟩ :
          ∃ outcome, MappingTable.load host.files .empty directives = outcome := ⟨_, rfl⟩
      cases ended : outcome.failure with
      | some error =>
          simp only [start, Gateway.loadConfig_of_tooDeep found loaded ended]
          exact .tooDeep found loaded ended rfl ⟨(List.append_nil _).symm, rfl⟩
      | none =>
          have made := MappingTable.made_install host.router outcome.table
            (session.withLoaded outcome).routing
          rw [start_of_whole found loaded ended]
          rw [MappingTable.snd_install] at made ⊢
          exact .loaded found loaded ended rfl ⟨made.calls, made.state⟩

/-- Nothing is sent while a session starts. -/
theorem start_unsent (host : Host ρ τ) (session : Session ρ τ) :
    (session.start host).1.device = session.device ∧
      (session.start host).1.attempts = session.attempts := by
  unfold start
  dsimp only
  split
  · exact ⟨rfl, rfl⟩
  · split <;> exact ⟨rfl, rfl⟩

/-- A start does not touch the path of the configuration, and of the translator nothing but the
table. -/
theorem Begins.gateway {result : Except GatewayError Unit}
    (begins : Begins host session next result) :
    next.gateway = session.gateway.withTable next.gateway.translator.table := by
  cases begins with
  | unreadable _ gateway => rw [gateway]; rfl
  | tooDeep _ _ _ gateway => rw [gateway]; rfl
  | loaded _ _ _ gateway => rw [gateway]; rfl

/-- A start does nothing to the router but make calls. -/
theorem Begins.made {result : Except GatewayError Unit} (begins : Begins host session next result) :
    ∃ calls, session.routing.Made host.router calls next.routing := by
  cases begins with
  | unreadable _ _ made => exact ⟨_, made⟩
  | tooDeep _ _ _ _ made => exact ⟨_, made⟩
  | loaded _ _ _ _ made => exact ⟨_, made⟩

/-- What a start comes to does not depend on what was there before, as far as the configuration can
be read and the router has no memory. -/
theorem Begins.agree {σ : Type} {other : Host ρ σ} {fresh started : Session ρ σ}
    {result outcome : Except GatewayError Unit} {directives : List Directive}
    (begins : Begins host session next result) (again : Begins other fresh started outcome)
    (reads : Directive.ofFile host.files session.gateway.configPath = .ok directives)
    (path : fresh.gateway.configPath = session.gateway.configPath)
    (files : other.files = host.files) :
    next.gateway.translator.table = started.gateway.translator.table ∧
      (other.router = host.router → host.router.Memoryless → result = outcome ∧
        ∃ calls, session.routing.Made host.router calls next.routing ∧
          fresh.routing.Made host.router calls started.routing) := by
  have readsAgain : Directive.ofFile other.files fresh.gateway.configPath = .ok directives := by
    rw [files, path]
    exact reads
  -- Both starts read the same lines, so they load the same table and fail alike.
  cases begins with
  | unreadable fails => cases reads.symm.trans fails
  | tooDeep found loaded fails gateway made =>
      cases reads.symm.trans found
      cases again with
      | unreadable fails => cases readsAgain.symm.trans fails
      | tooDeep found loadedAgain failsAgain gatewayAgain madeAgain =>
          cases readsAgain.symm.trans found
          rw [files] at loadedAgain
          cases loaded.symm.trans loadedAgain
          cases fails.symm.trans failsAgain
          rw [gateway, gatewayAgain]
          exact ⟨rfl, fun router _ => ⟨rfl, [], made, router ▸ madeAgain⟩⟩
      | loaded found loadedAgain whole =>
          cases readsAgain.symm.trans found
          rw [files] at loadedAgain
          cases loaded.symm.trans loadedAgain
          cases fails.symm.trans whole
  | loaded found loaded whole gateway made =>
      cases reads.symm.trans found
      cases again with
      | unreadable fails => cases readsAgain.symm.trans fails
      | tooDeep found loadedAgain fails =>
          cases readsAgain.symm.trans found
          rw [files] at loadedAgain
          cases loaded.symm.trans loadedAgain
          cases whole.symm.trans fails
      | loaded found loadedAgain wholeAgain gatewayAgain madeAgain =>
          cases readsAgain.symm.trans found
          rw [files] at loadedAgain
          cases loaded.symm.trans loadedAgain
          rw [gateway, gatewayAgain]
          refine ⟨rfl, fun router memoryless => ?_⟩
          rw [router, MappingTable.networkAnswer_memoryless memoryless _ fresh.router
            session.router] at madeAgain ⊢
          exact ⟨rfl, _, made, madeAgain⟩

/-! ## Stopping and starting over -/

theorem made_shutdown (host : Host ρ τ) (session : Session ρ τ) :
    session.routing.Made host.router MappingTable.removalCalls (session.shutdown host).routing :=
  MappingTable.made_uninstall host.router session.routing

/-- What a reload does, next to the start of a gateway that has nothing yet. -/
structure ReloadsLikeFresh (host : Host ρ τ) (session next : Session ρ τ)
    (result : Except GatewayError Unit) : Prop where
  /-- The path MTU cache and both limiters stay. -/
  translator : next.gateway.translator =
    { session.gateway.translator with table := next.gateway.translator.table }
  /-- So does the path of the configuration, and nothing is sent. -/
  rest : next.gateway.configPath = session.gateway.configPath ∧ next.device = session.device ∧
    next.attempts = session.attempts
  /-- If the configuration cannot be read the table stays, and nothing is asked of the router but
  to remove all routes. -/
  unreadable {cause : FileError} (fails : host.files session.gateway.configPath = .error cause) :
    result = .error (.config (.unreadable ⟨session.gateway.configPath, cause⟩)) ∧
      next.gateway.translator.table = session.gateway.translator.table ∧
      next.calls = session.calls ++ [.removeAll .inet, .removeAll .inet6]
  /-- Otherwise the table is the one that a start leads to with the same files, on a gateway with
  an empty table as on any other. If the router has no memory, that start ends in the same way, and
  its calls are the ones made once all routes are removed. -/
  readable {text : String} (reads : host.files session.gateway.configPath = .ok text) {σ : Type}
    (other : Host ρ σ) (files : other.files = host.files) (gateway : Gateway)
    (path : gateway.configPath = session.gateway.configPath) (router : ρ) (device : σ) :
    next.gateway.translator.table =
        ((fresh gateway router device).start other).1.gateway.translator.table ∧
      (other.router = host.router → host.router.Memoryless →
        result = ((fresh gateway router device).start other).2 ∧
        next.calls = session.calls ++ [.removeAll .inet, .removeAll .inet6] ++
          ((fresh gateway router device).start other).1.calls)

/-- **A reload is a fresh start for the table and touches nothing else**, whatever was loaded and
treated before. -/
theorem reload_like_fresh (host : Host ρ τ) (session : Session ρ τ) :
    ReloadsLikeFresh host session (session.reload host).1 (session.reload host).2 := by
  have removed := made_shutdown host session
  have begins := begins_start host (session.shutdown host)
  obtain ⟨device, attempts⟩ := start_unsent host (session.shutdown host)
  rw [reload]
  generalize (session.shutdown host).start host = ended at begins device attempts ⊢
  obtain ⟨next, result⟩ := ended
  have kept : next.gateway = session.gateway.withTable next.gateway.translator.table :=
    begins.gateway
  refine ⟨by rw [kept]; rfl, ⟨by rw [kept]; rfl, device, attempts⟩, fun {cause} fails => ?_,
    fun {text} reads σ other files gateway path router device => ?_⟩
  · have unread : Directive.ofFile host.files (session.shutdown host).gateway.configPath =
        .error ⟨session.gateway.configPath, cause⟩ := by
      simp only [Directive.ofFile, fails, shutdown, withRouting]
    cases begins with
    | unreadable fails gateway made =>
        cases unread.symm.trans fails
        refine ⟨rfl, congrArg (·.translator.table) gateway, ?_⟩
        exact (removed.trans made).calls
    | tooDeep found => cases unread.symm.trans found
    | loaded found => cases unread.symm.trans found
  · have found : Directive.ofFile host.files (session.shutdown host).gateway.configPath =
        .ok (Directive.parse (some session.gateway.configPath) text) := by
      simp only [Directive.ofFile, reads, shutdown, withRouting]
    obtain ⟨table, same⟩ := begins.agree (begins_start other (fresh gateway router device)) found
      path files
    refine ⟨table, fun again memoryless => ?_⟩
    obtain ⟨ending, calls, made, madeAgain⟩ := same again memoryless
    have alone : ((fresh gateway router device).start other).1.calls = calls := madeAgain.calls
    rw [alone, List.append_assoc]
    exact ⟨ending, (removed.trans made).calls⟩

end Session

end FamilyGateway
