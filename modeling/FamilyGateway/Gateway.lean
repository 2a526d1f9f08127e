import FamilyGateway.Mapping.Load
import FamilyGateway.Mapping.Routes
import FamilyGateway.Translator.Basic

/-!
# The gateway

A gateway is a translator with the path of its configuration. It runs as a session
with a router and a device for packets: `start` loads the configuration and installs
its routes, `reload` does the same over again, `shutdown` removes the routes, and `serve`
handles what is waiting until nothing is.

Requests are handled before the next packet, so a packet is treated with the table that
the last request in front of it has left. A session remembers the calls to its router,
the packets it tried to send and the lines it logged.
-/

set_option autoImplicit false

namespace FamilyGateway

/-! ## Errors -/

/-- Why a configuration is not in force. -/
inductive ConfigError where
  | unreadable (error : ReadError)
  | includeTooDeep (error : IncludeTooDeep)
  | route (error : RouteError)
  deriving DecidableEq, Repr

/-- What people are shown about a configuration that is not in force. -/
def ConfigError.message : ConfigError → String
  | unreadable error => error.message
  | includeTooDeep error => error.message
  | route error => error.message

/-- Why a gateway stops. -/
inductive GatewayError where
  | config (error : ConfigError)
  /-- Reading packets failed. -/
  | device (reason : String)
  deriving DecidableEq, Repr

/-- What people are shown about a gateway that stops. -/
def GatewayError.message : GatewayError → String
  | config error => error.message
  | device reason => s!"I/O error: {reason}"

/-! ## Gateways and sessions -/

/-- A translator and the path of its configuration. -/
structure Gateway where
  configPath : String
  translator : Translator

namespace Gateway

/-- The gateway with another table. -/
def withTable (gateway : Gateway) (table : MappingTable) : Gateway :=
  { gateway with translator := { gateway.translator with table := table } }

/-- Loads the configuration into an emptied table. A configuration that cannot be read leaves the
table as it is. -/
def loadConfig (files : FileReader) (gateway : Gateway) :
    Gateway × List LogLine × Except ConfigError Unit :=
  match Directive.ofFile files gateway.configPath with
  | .error error => (gateway, [], .error (.unreadable error))
  | .ok directives =>
    let outcome := MappingTable.load files .empty directives
    (gateway.withTable outcome.table, outcome.log,
      match outcome.failure with
      | some error => .error (.includeTooDeep error)
      | none => .ok ())

end Gateway

/-- An attempt to send a packet. -/
structure SendAttempt where
  packet : OutboundPacket
  delivered : Bool
  deriving DecidableEq, Repr

/-- A gateway at work, with a router whose states are in `ρ` and a device whose states are in
`τ`. -/
structure Session (ρ τ : Type) where
  gateway : Gateway
  router : ρ
  device : τ
  /-- The calls to the router, oldest first. -/
  calls : List RouteCall
  /-- The attempts to send, oldest first. -/
  attempts : List SendAttempt
  log : List LogLine

/-- What a session works with. -/
structure Host (ρ τ : Type) where
  router : Router ρ
  /-- Sends a packet through the device. -/
  send : τ → OutboundPacket → τ × Except String Unit
  files : FileReader
  surroundings : Surroundings

/-- A request to a running session. -/
inductive ControlRequest where
  /-- Read the configuration again. -/
  | reload
  /-- Remove the routes and stop. -/
  | shutdown
  deriving DecidableEq, Repr

/-- A signal of the operating system. -/
inductive Signal where
  | hangup
  | interrupt
  | terminate
  deriving DecidableEq, Repr

/-- The request that a signal stands for. -/
def Signal.request : Signal → ControlRequest
  | hangup => .reload
  | interrupt => .shutdown
  | terminate => .shutdown

/-- What comes from the device. -/
inductive Arrival where
  | packet (family : Family) (bytes : Bytes)
  | failure (reason : String)
  deriving DecidableEq, Repr

/-- What is waiting for a session. -/
structure Waiting where
  requests : List ControlRequest
  /-- Whether no further request can come. -/
  closed : Bool
  arrivals : List Arrival
  deriving DecidableEq, Repr

/-- Nothing is waiting, and requests can come. -/
def Waiting.none : Waiting := ⟨[], false, []⟩

/-- One more request is waiting, unless requests can no longer come. -/
def Waiting.addRequest (waiting : Waiting) (request : ControlRequest) : Waiting :=
  if waiting.closed then waiting
  else { waiting with requests := waiting.requests ++ [request] }

/-- One more thing from the device is waiting. -/
def Waiting.addArrival (waiting : Waiting) (arrival : Arrival) : Waiting :=
  { waiting with arrivals := waiting.arrivals ++ [arrival] }

/-- How many turns there can be at most: one for each thing that is waiting, and the end of
requests. -/
def Waiting.turns (waiting : Waiting) : Nat :=
  waiting.requests.length + waiting.arrivals.length + 1

/-- How many bytes of a packet are received. -/
def receiveBufferLength : Nat := 65535

namespace Session

variable {ρ τ : Type}

/-- A session that has done nothing yet. -/
def fresh (gateway : Gateway) (router : ρ) (device : τ) : Session ρ τ :=
  ⟨gateway, router, device, [], [], []⟩

/-- The session without a memory of what it did. -/
def forget (session : Session ρ τ) : Session ρ τ :=
  { session with calls := [], attempts := [], log := [] }

/-- The packets that were sent, oldest first. -/
def sent (session : Session ρ τ) : List OutboundPacket :=
  (session.attempts.filter SendAttempt.delivered).map SendAttempt.packet

/-- Writes lines to the log. -/
def note (session : Session ρ τ) (lines : List LogLine) : Session ρ τ :=
  { session with log := session.log ++ lines }

/-! ## The life of a configuration -/

/-- The session's router with the calls and the log so far. -/
def routing (session : Session ρ τ) : Routing ρ := ⟨session.router, session.calls, session.log⟩

/-- The session after its router was at work. -/
def withRouting (session : Session ρ τ) (routing : Routing ρ) : Session ρ τ :=
  { session with router := routing.state, calls := routing.calls, log := routing.log }

/-- Loads the configuration and installs the routes of the table. -/
def start (host : Host ρ τ) (session : Session ρ τ) :
    Session ρ τ × Except GatewayError Unit :=
  let (gateway, lines, loaded) := session.gateway.loadConfig host.files
  let session := ({ session with gateway := gateway } : Session ρ τ).note lines
  match loaded with
  | .error error => (session, .error (.config error))
  | .ok () =>
    match gateway.translator.table.install host.router session.routing with
    | (routing, .ok ()) => (session.withRouting routing, .ok ())
    | (routing, .error error) => (session.withRouting routing, .error (.config (.route error)))

/-- Removes the routes. -/
def shutdown (host : Host ρ τ) (session : Session ρ τ) : Session ρ τ :=
  session.withRouting (MappingTable.uninstall host.router session.routing)

/-- Removes the routes and starts again. -/
def reload (host : Host ρ τ) (session : Session ρ τ) :
    Session ρ τ × Except GatewayError Unit :=
  (session.shutdown host).start host

/-! ## Packets -/

/-- What is logged about a packet that could not be sent. -/
def sendWarning (packet : OutboundPacket) (reason : String) : LogLine :=
  .warn s!"failed to write {packet.family.name} packet: {reason}"

/-- The session after an attempt to send, with the device it left and the lines it logged. -/
def afterAttempt (session : Session ρ τ) (device : τ) (attempt : SendAttempt)
    (lines : List LogLine) : Session ρ τ :=
  { session with
    device := device
    attempts := session.attempts ++ [attempt]
    log := session.log ++ lines }

/-- Tries to send a packet. -/
def send (host : Host ρ τ) (session : Session ρ τ) (packet : OutboundPacket) : Session ρ τ :=
  match host.send session.device packet with
  | (device, .ok ()) => session.afterAttempt device ⟨packet, true⟩ []
  | (device, .error reason) =>
    session.afterAttempt device ⟨packet, false⟩ [sendWarning packet reason]

/-- Treats a packet and sends what it becomes. -/
def handlePacket (host : Host ρ τ) (session : Session ρ τ) (family : Family) (packet : Bytes) :
    Session ρ τ :=
  let outcome := session.gateway.translator.translate host.surroundings family
    (packet.take receiveBufferLength)
  let gateway := { session.gateway with translator := outcome.translator }
  let session := ({ session with gateway := gateway } : Session ρ τ).note outcome.log
  outcome.packets.foldl (send host) session

/-! ## The loop -/

/-- What is logged when the configuration could not be put into force again. -/
def reloadFailure (error : GatewayError) : LogLine := .error s!"reload failed: {error.message}"

/-- What is logged when reading packets failed. -/
def readFailure (reason : String) : LogLine := .error s!"packet read failed: {reason}"

/-- What a session does next. -/
inductive Turn where
  | request (request : ControlRequest)
  /-- No request is waiting and none can come. -/
  | hangUp
  | arrival (arrival : Arrival)
  deriving DecidableEq, Repr

/-- Takes the next thing to do from what is waiting: requests first, then the end of requests, then
what came from the device. -/
def nextTurn (waiting : Waiting) : Option (Turn × Waiting) :=
  match waiting.requests, waiting.closed, waiting.arrivals with
  | request :: requests, _, _ => some (.request request, { waiting with requests := requests })
  | [], true, _ => some (.hangUp, waiting)
  | [], false, arrival :: arrivals =>
    some (.arrival arrival, { waiting with arrivals := arrivals })
  | [], false, [] => none

/-- Takes a turn. Returns the session and, if this was its last turn, how it ended. -/
def takeTurn (host : Host ρ τ) (session : Session ρ τ) :
    Turn → Session ρ τ × Option (Except GatewayError Unit)
  | .request .reload =>
    match session.reload host with
    | (session, .ok ()) => (session, none)
    | (session, .error error) =>
      ((session.note [reloadFailure error]).shutdown host, some (.error error))
  | .request .shutdown => (session.shutdown host, some (.ok ()))
  | .hangUp => (session.shutdown host, some (.ok ()))
  | .arrival (.packet family bytes) => (session.handlePacket host family bytes, none)
  | .arrival (.failure reason) =>
    ((session.note [readFailure reason]).shutdown host, some (.error (.device reason)))

/-- Where serving has led: the session, what is still waiting, and how it ended, if it did. -/
structure Service (ρ τ : Type) where
  session : Session ρ τ
  waiting : Waiting
  ending : Option (Except GatewayError Unit)

/-- Takes at most the given number of turns, until the session ends or nothing is waiting. -/
def serveTurns (host : Host ρ τ) : (turns : Nat) → Session ρ τ → Waiting → Service ρ τ
  | 0, session, waiting => ⟨session, waiting, none⟩
  | turns + 1, session, waiting =>
    match nextTurn waiting with
    | none => ⟨session, waiting, none⟩
    | some (turn, waiting) =>
      match session.takeTurn host turn with
      | (session, some ending) => ⟨session, waiting, some ending⟩
      | (session, none) => serveTurns host turns session waiting

/-- Handles what is waiting until the session ends or nothing is waiting any more. -/
def serve (host : Host ρ τ) (session : Session ρ τ) (waiting : Waiting) : Service ρ τ :=
  serveTurns host waiting.turns session waiting

end Session

end FamilyGateway
