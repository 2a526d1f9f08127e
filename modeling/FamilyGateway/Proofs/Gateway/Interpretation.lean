import FamilyGateway.Proofs.Gateway.ReferenceLoop
import FamilyGateway.Proofs.Gateway.Restart

/-!
# Serving is interpreting

A session that serves is put beside the reference loop. What a start, a reload or a
shutdown does depends on the gateway and the router's state alone, and is added to the
calls and the log that the session carries along (`Session.reload_eq`). So the two stay
together turn by turn (`Session.Follows.turn`): attempts to send come on top, and a
failed one leaves a line in the log and nothing else.

Since the reference loop knows nothing about the device, which attempts fail cannot make a
difference, and what holds of its history holds of the session
(`Session.serve_interprets`).
-/

set_option autoImplicit false

namespace FamilyGateway

variable {ρ τ : Type}

namespace Session

variable {host : Host ρ τ} {session : Session ρ τ}

/-! ## What a session carries along -/

/-- The session once it has done what another one did, which had done nothing before. -/
def carryOn (session : Session ρ τ) (done : Session ρ Unit) : Session ρ τ :=
  { session with
    gateway := done.gateway
    router := done.router
    calls := session.calls ++ done.calls
    log := session.log ++ done.log }

/-- The session without what it carries along. -/
def bare (session : Session ρ τ) : Session ρ Unit := fresh session.gateway session.router ()

theorem carryOn_assoc (session : Session ρ τ) (first second : Session ρ Unit) :
    (session.carryOn first).carryOn second = session.carryOn (first.carryOn second) := by
  simp only [carryOn, List.append_assoc]

/-- What a start does depends on nothing that the session carries along. -/
theorem start_eq (host : Host ρ τ) (session : Session ρ τ) :
    session.start host =
      (session.carryOn (session.bare.start host.plain).1, (session.bare.start host.plain).2) := by
  have same : session.bare.gateway.loadConfig host.plain.files =
      session.gateway.loadConfig host.files := rfl
  unfold start
  rw [same]
  cases session.gateway.loadConfig host.files with
  | mk gateway rest =>
      obtain ⟨lines, loaded⟩ := rest
      cases loaded with
      | error error => simp only [carryOn, note, bare, fresh, List.append_nil, List.nil_append]
      | ok =>
          -- The routes are asked for behind the calls and lines that are carried along.
          have behind := gateway.translator.table.install_behind host.router session.routing
            ⟨session.router, [], lines⟩
          simp only [Routing.behind, List.append_nil, routing] at behind
          simp only [note, routing, bare, fresh, List.nil_append, behind, Host.plain]
          cases gateway.translator.table.install host.router ⟨session.router, [], lines⟩ with
          | mk after result => cases result <;> rfl

/-- Nor does the removal of routes. -/
theorem shutdown_eq (host : Host ρ τ) (session : Session ρ τ) :
    session.shutdown host = session.carryOn (session.bare.shutdown host.plain) := by
  have behind := MappingTable.uninstall_behind host.router session.routing (.start session.router)
  have whole : session.routing.behind (.start session.router) = session.routing :=
    session.routing.behind_start
  rw [whole] at behind
  rw [shutdown, behind]
  rfl

/-- Nor does a reload. -/
theorem reload_eq (host : Host ρ τ) (session : Session ρ τ) :
    session.reload host =
      (session.carryOn (session.bare.reload host.plain).1, (session.bare.reload host.plain).2) := by
  have again := start_eq host.plain (session.bare.shutdown host.plain)
  rw [reload, shutdown_eq, start_eq, carryOn_assoc, reload, again]
  rfl

/-! ## A session beside the reference loop -/

/-- A log is another one with one more line for each attempt to send that failed. -/
def Annotates (attempts : List SendAttempt) (log plain : List LogLine) : Prop :=
  ∃ warnings, Complained attempts warnings ∧ plain.Sublist log ∧ log.Perm (plain ++ warnings)

theorem Annotates.append {attempts : List SendAttempt} {log plain : List LogLine}
    (annotates : Annotates attempts log plain) (lines : List LogLine) :
    Annotates attempts (log ++ lines) (plain ++ lines) := by
  obtain ⟨warnings, complained, within, same⟩ := annotates
  refine ⟨warnings, complained, within.append (.refl lines), ?_⟩
  calc (log ++ lines).Perm ((plain ++ warnings) ++ lines) := same.append_right lines
    _ = plain ++ (warnings ++ lines) := List.append_assoc ..
    List.Perm _ (plain ++ (lines ++ warnings)) := List.perm_append_comm.append_left plain
    _ = (plain ++ lines) ++ warnings := (List.append_assoc ..).symm

theorem Annotates.complain {attempts more : List SendAttempt} {log plain lines : List LogLine}
    (annotates : Annotates attempts log plain) (complained : Complained more lines) :
    Annotates (attempts ++ more) (log ++ lines) plain := by
  obtain ⟨warnings, earlier, within, same⟩ := annotates
  refine ⟨warnings ++ lines, earlier.append complained,
    within.trans (List.sublist_append_left log lines), ?_⟩
  rw [← List.append_assoc]
  exact same.append_right lines

/-- A session is where the reference loop's session is, has tried to send some packets, and has one
more line in its log for each attempt that failed. -/
structure Mirrors (session : Session ρ τ) (plain : Session ρ Unit)
    (packets : List OutboundPacket) : Prop where
  gateway : session.gateway = plain.gateway
  router : session.router = plain.router
  calls : session.calls = plain.calls
  tried : session.attempts.map SendAttempt.packet = packets
  log : Annotates session.attempts session.log plain.log

namespace Mirrors

variable {plain : Session ρ Unit} {packets : List OutboundPacket}

theorem bare (mirrors : Mirrors session plain packets) : session.bare = plain.bare := by
  rw [Session.bare, Session.bare, mirrors.gateway, mirrors.router]

theorem carryOn (mirrors : Mirrors session plain packets) (done : Session ρ Unit) :
    Mirrors (session.carryOn done) (plain.carryOn done) packets where
  gateway := rfl
  router := rfl
  calls := congrArg (· ++ done.calls) mirrors.calls
  tried := mirrors.tried
  log := mirrors.log.append done.log

theorem note (mirrors : Mirrors session plain packets) (lines : List LogLine) :
    Mirrors (session.note lines) (plain.note lines) packets where
  gateway := mirrors.gateway
  router := mirrors.router
  calls := mirrors.calls
  tried := mirrors.tried
  log := mirrors.log.append lines

theorem shutdown (mirrors : Mirrors session plain packets) (host : Host ρ τ) :
    Mirrors (session.shutdown host) (plain.shutdown host.plain) packets := by
  rw [shutdown_eq host session, shutdown_eq host.plain plain, mirrors.bare]
  exact mirrors.carryOn _

/-- A reload goes the same way. -/
theorem reload (mirrors : Mirrors session plain packets) (host : Host ρ τ) :
    Mirrors (session.reload host).1 (plain.reload host.plain).1 packets ∧
      (session.reload host).2 = (plain.reload host.plain).2 := by
  rw [reload_eq host session, reload_eq host.plain plain, mirrors.bare]
  exact ⟨mirrors.carryOn _, rfl⟩

theorem translated (mirrors : Mirrors session plain packets) (outcome : Translator.Outcome) :
    Mirrors (session.translated outcome) (plain.translated outcome) packets where
  gateway := by rw [Session.translated, Session.translated, mirrors.gateway]; rfl
  router := mirrors.router
  calls := mirrors.calls
  tried := mirrors.tried
  log := mirrors.log.append outcome.log

/-- Whatever becomes of attempts to send, the rest stays where the reference loop is. -/
theorem tries {after : Session ρ τ} {more : List OutboundPacket} {attempts : List SendAttempt}
    {lines : List LogLine} (mirrors : Mirrors session plain packets)
    (tries : Tries session more after attempts lines) : Mirrors after plain (packets ++ more) where
  gateway := tries.gateway.trans mirrors.gateway
  router := tries.router.trans mirrors.router
  calls := tries.calls.trans mirrors.calls
  tried := by rw [tries.attempted, List.map_append, mirrors.tried, tries.packets]
  log := by
    rw [tries.attempted, tries.logged]
    exact mirrors.log.complain tries.complained

theorem handled {history : List Handled} {handled : Handled}
    (mirrors : Mirrors session plain (history.flatMap Handled.packets ++ handled.packets)) :
    Mirrors session plain ((history ++ [handled]).flatMap Handled.packets) := by
  rw [List.flatMap_append, List.flatMap_singleton]
  exact mirrors

/-- Nothing is to be sent for a request or an end. -/
theorem unsent {history : List Handled} {handled : Handled}
    (mirrors : Mirrors session plain (history.flatMap Handled.packets))
    (silent : handled.packets = []) :
    Mirrors session plain ((history ++ [handled]).flatMap Handled.packets) := by
  rw [← List.append_nil (history.flatMap Handled.packets), ← silent] at mirrors
  exact mirrors.handled

end Mirrors

/-! ## Turn by turn with the reference loop -/

/-- A packet fits the buffer that it is received in. -/
def Fits : Arrival → Prop
  | .packet _ bytes => bytes.length ≤ receiveBufferLength
  | .failure _ => True

/-- Serving has led to where the reference loop is. -/
structure Follows (service : Service ρ τ) (reference : Reference ρ) : Prop where
  session : Mirrors service.session reference.session
    (reference.history.flatMap Handled.packets)
  waiting : service.waiting = reference.waiting
  ending : service.ending = reference.ending

namespace Follows

variable {reference : Reference ρ} {waiting rest : Waiting}

/-- If nothing is left to do, the reference loop does nothing either. -/
theorem idle (follows : Follows ⟨session, waiting, none⟩ reference) (host : Host ρ τ)
    (next : nextTurn waiting = none) : reference.turn host.plain = reference := by
  obtain ⟨⟨plain, left, ending⟩, history⟩ := reference
  obtain rfl : waiting = left := follows.waiting
  obtain ⟨requests, closed, arrivals⟩ := waiting
  cases requests with
  | cons request requests => cases next
  | nil =>
      cases closed with
      | true => cases next
      | false =>
          cases arrivals with
          | nil => rfl
          | cons arrival arrivals => cases next

/-- A request is handled alike. -/
theorem request (follows : Follows ⟨session, waiting, none⟩ reference) (host : Host ρ τ)
    (request : ControlRequest) :
    Follows ⟨(session.takeTurn host (.request request)).1, waiting,
      (session.takeTurn host (.request request)).2⟩ (reference.request host.plain request) := by
  obtain ⟨mirrors, waiting, ending⟩ := follows
  cases request with
  | shutdown => exact ⟨(mirrors.shutdown host).unsent rfl, waiting, rfl⟩
  | reload =>
      obtain ⟨reloaded, same⟩ := mirrors.reload host
      unfold takeTurn Reference.request
      cases tried : session.reload host with
      | mk after result =>
          cases plainTried : reference.session.reload host.plain with
          | mk plain plainResult =>
              simp only [tried, plainTried] at reloaded same ⊢
              subst same
              cases result with
              | ok => exact ⟨reloaded.unsent rfl, waiting, ending⟩
              | error error =>
                  have stopped := (reloaded.note [reloadFailure error]).shutdown host
                  exact ⟨stopped.unsent rfl, waiting, rfl⟩

/-- What came from the device is handled alike, if it fits the buffer. -/
theorem arrival (follows : Follows ⟨session, waiting, none⟩ reference) (host : Host ρ τ)
    {arrival : Arrival} (fits : Fits arrival) :
    Follows ⟨(session.takeTurn host (.arrival arrival)).1, waiting,
      (session.takeTurn host (.arrival arrival)).2⟩ (reference.arrival host.plain arrival) := by
  obtain ⟨mirrors, waiting, ending⟩ := follows
  cases arrival with
  | failure reason =>
      have stopped := (mirrors.note [readFailure reason]).shutdown host
      exact ⟨stopped.unsent rfl, waiting, rfl⟩
  | packet family bytes =>
      have whole : bytes.take receiveBufferLength = bytes := List.take_of_length_le fits
      obtain ⟨attempts, lines, tries⟩ := tries_handlePacket host session family bytes rfl
      rw [whole, mirrors.gateway] at tries
      have treated := (mirrors.translated _).tries tries
      exact ⟨treated.handled, waiting, ending⟩

/-- Every turn of the two is the same. -/
theorem turn {taken : Turn} (follows : Follows ⟨session, waiting, none⟩ reference) (host : Host ρ τ)
    (fits : ∀ arrival ∈ waiting.arrivals, Fits arrival)
    (next : nextTurn waiting = some (taken, rest)) :
    Follows ⟨(session.takeTurn host taken).1, rest, (session.takeTurn host taken).2⟩
      (reference.turn host.plain) := by
  obtain ⟨⟨plain, left, ending⟩, history⟩ := reference
  obtain ⟨mirrors, same, goesOn⟩ := follows
  obtain rfl : waiting = left := same
  have with_rest (waiting : Waiting) :
      Follows ⟨session, waiting, none⟩ ⟨⟨plain, waiting, ending⟩, history⟩ := ⟨mirrors, rfl, goesOn⟩
  -- Both look at what is waiting in the same order.
  obtain ⟨requests, closed, arrivals⟩ := waiting
  cases requests with
  | cons request requests =>
      cases next
      exact (with_rest _).request host request
  | nil =>
      cases closed with
      | true =>
          cases next
          exact ⟨(mirrors.shutdown host).unsent rfl, rfl, rfl⟩
      | false =>
          cases arrivals with
          | nil => cases next
          | cons arrival arrivals =>
              cases next
              exact (with_rest _).arrival host (fits arrival List.mem_cons_self)

/-- So the two are together after any turns. -/
theorem turns (follows : Follows ⟨session, waiting, none⟩ reference) (host : Host ρ τ)
    (fits : ∀ arrival ∈ reference.received, Fits arrival) (count : Nat) :
    Follows (serveTurns host count session waiting) (reference.turns host.plain count) := by
  induction count generalizing session waiting reference with
  | zero => exact follows
  | succ count ih =>
      have goesOn : reference.ending = none := follows.ending.symm
      have fitsWaiting : ∀ arrival ∈ waiting.arrivals, Fits arrival := by
        have same : waiting = reference.waiting := follows.waiting
        rw [same]
        exact fun arrival member => fits arrival (List.mem_append_right _ member)
      cases next : nextTurn waiting with
      | none =>
          -- The reference loop takes its turns without moving.
          rw [Reference.turns_of_idle (follows.idle host next)]
          simp only [serveTurns, next]
          exact follows
      | some taken =>
          obtain ⟨taken, rest⟩ := taken
          have together := follows.turn host fitsWaiting next
          simp only [serveTurns, Reference.turns, goesOn, next]
          cases took : session.takeTurn host taken with
          | mk after ending =>
              rw [took] at together
              cases ending with
              | none =>
                  refine ih together ?_
                  rw [Reference.received_turn]
                  exact fits
              | some ending =>
                  rw [Reference.turns_of_ended together.ending.symm]
                  exact together

/-- And after any moments. -/
theorem run {service : Service ρ τ} (follows : Follows service reference) (host : Host ρ τ)
    (moments : List Moment)
    (fits : ∀ arrival ∈ reference.received ++ moments.filterMap Moment.arrival?, Fits arrival) :
    Follows (service.run host moments) (reference.run host.plain moments) := by
  induction moments generalizing service reference with
  | nil => exact follows
  | cons moment moments ih =>
      have advanced : Follows (service.advance host moment)
          (reference.advance host.plain moment) := by
        obtain ⟨session, waiting, ending⟩ := service
        cases moment with
        | supply supply =>
            exact ⟨follows.session, congrArg (·.supply supply) follows.waiting, follows.ending⟩
        | turns files surroundings count =>
            cases ending with
            | none =>
                exact follows.turns (host.within files surroundings)
                  (fun arrival member => fits arrival (List.mem_append_left _ member)) count
            | some ending =>
                change Follows _ (reference.turns _ count)
                rw [Reference.turns_of_ended follows.ending.symm]
                exact follows
      refine ih advanced ?_
      rw [Reference.received_advance, List.append_assoc, ← Moment.arrivals_cons]
      exact fits

end Follows

/-! ## Serving -/

/-- Two sessions differ at most in their devices, in which attempts to send failed, and in their
logs. -/
structure Alike {σ : Type} (first : Service ρ τ) (second : Service ρ σ) : Prop where
  tried : first.session.attempts.map SendAttempt.packet =
    second.session.attempts.map SendAttempt.packet
  gateway : first.session.gateway = second.session.gateway
  router : first.session.router = second.session.router
  calls : first.session.calls = second.session.calls
  waiting : first.waiting = second.waiting
  ending : first.ending = second.ending

theorem Follows.alike {σ : Type} {first : Service ρ τ} {second : Service ρ σ}
    {reference : Reference ρ} (one : Follows first reference) (other : Follows second reference) :
    Alike first second where
  tried := one.session.tried.trans other.session.tried.symm
  gateway := one.session.gateway.trans other.session.gateway.symm
  router := one.session.router.trans other.session.router.symm
  calls := one.session.calls.trans other.session.calls.symm
  waiting := one.waiting.trans other.waiting.symm
  ending := one.ending.trans other.ending.symm

/-- Where serving leads from a gateway through some moments. -/
def Service.through (host : Host ρ τ) (gateway : Gateway) (router : ρ) (device : τ)
    (moments : List Moment) : Service ρ τ :=
  (Service.opening (fresh gateway router device)).run host moments

/-- Where the reference loop leads from there. -/
def Reference.through (host : Host ρ τ) (gateway : Gateway) (router : ρ)
    (moments : List Moment) : Reference ρ :=
  (Reference.opening gateway router).run host.plain moments

theorem follows_through (host : Host ρ τ) (gateway : Gateway) (router : ρ) (device : τ)
    (moments : List Moment) (fits : ∀ arrival ∈ moments.filterMap Moment.arrival?, Fits arrival) :
    Follows (Service.through host gateway router device moments)
      (Reference.through host gateway router moments) := by
  have opened : Follows (Service.opening (fresh gateway router device))
      (Reference.opening gateway router) :=
    ⟨⟨rfl, rfl, rfl, rfl, [], .nil, .refl _, .refl _⟩, rfl, rfl⟩
  exact opened.run host moments fits

/-- Serving from a gateway through some moments is what the reference loop does, and what the
reference loop does loses nothing, does nothing twice and changes no order. -/
structure Interprets (host : Host ρ τ) (gateway : Gateway) (router : ρ) (moments : List Moment)
    (service : Service ρ τ) (reference : Reference ρ) : Prop where
  /-- Gateway, router, calls, what is waiting, and how it ended are those of the reference loop.
  What was tried to send is what the packets in its history became, one after the other. A failed
  attempt adds a line to the log, and nothing else does. -/
  follows : Follows service reference
  /-- What was handled and what is still waiting are together what came from the device. -/
  received : reference.history.filterMap Handled.arrival? ++ service.waiting.arrivals =
    moments.filterMap Moment.arrival?
  /-- Each packet met the table that the last request before it has left. -/
  met {before after : List Handled} {translator : Translator} {surroundings : Surroundings}
    {family : Family} {bytes : Bytes}
    (split : reference.history =
      before ++ .packet translator surroundings family bytes :: after) :
    translator.table = Reference.tableAfter gateway.translator.table before
  /-- `serve` goes on until the session has ended or nothing is left to do. -/
  settles (goesOn : service.ending = none) (files : FileReader) (surroundings : Surroundings) :
    let served := serve (host.within files surroundings) service.session service.waiting
    served = service.advance host (.turns files surroundings service.waiting.turns) ∧
      (served.ending = none → nextTurn served.waiting = none)
  /-- Once the session has ended nothing is read any more. -/
  stops (finished : service.ending.isSome) (more : List Moment) :
    (service.run host more).session = service.session ∧
      (service.run host more).ending = service.ending ∧
      (service.run host more).waiting.arrivals =
        service.waiting.arrivals ++ more.filterMap Moment.arrival?
  /-- Which attempts to send fail makes no difference to anything but the log. -/
  unaffected {σ : Type} (other : Host ρ σ) (same : other.plain = host.plain) (device : σ) :
    Alike service (Service.through other gateway router device moments)

/-- **Serving is interpreting what becomes available, one thing after the other**, whenever and in
whichever order it does. -/
theorem serve_interprets (host : Host ρ τ) (gateway : Gateway) (router : ρ) (device : τ)
    (moments : List Moment) (fits : ∀ arrival ∈ moments.filterMap Moment.arrival?, Fits arrival) :
    Interprets host gateway router moments (.through host gateway router device moments)
      (.through host gateway router moments) where
  follows := follows_through host gateway router device moments fits
  received := by
    have follows := follows_through host gateway router device moments fits
    rw [follows.waiting]
    exact Reference.received_run host.plain moments (.opening gateway router)
  met {before after translator surroundings family bytes} split := by
    have first : Reference.Met gateway.translator.table (Reference.opening gateway router) := by
      refine ⟨rfl, fun {before} {after} {translator} {surroundings} {family} {bytes} split => ?_⟩
      exact absurd split.symm (List.append_ne_nil_of_right_ne_nil before (List.cons_ne_nil _ _))
    exact (Reference.met_run host.plain moments first).packets split
  settles goesOn files surroundings := by
    refine ⟨?_, serve_settles _ _ _⟩
    simp only [Service.advance, goesOn, serve]
  stops finished more := by
    obtain ⟨ending, ended⟩ := Option.isSome_iff_exists.mp finished
    exact Service.run_of_ended host ended more
  unaffected {σ} other same another := by
    have one := follows_through host gateway router device moments fits
    have again := follows_through other gateway router another moments fits
    rw [Reference.through, same] at again
    exact one.alike again

end Session

namespace Sample

/-- A host without files, with a device that refuses every other packet. -/
def faltering : Host Unit Bool where
  router := fun _ _ => ⟨(), [], .ok ()⟩
  send := fun ready _ => (!ready, if ready then .ok () else .error "no buffer space")
  files := fun _ => .error (.system .notFound)
  surroundings := surroundings

/-- A packet is handled, and another one arrives together with a request that will fail. -/
def overtaken : List Moment :=
  [.supply (.arrival (.packet .inet [0x45, 0])), .turns faltering.files surroundings 1,
    .supply (.arrival (.packet .inet6 [0x60])), .supply (.request .reload),
    .turns faltering.files surroundings 2]

end Sample

namespace Session

open Sample

/-- The request is handled first and ends the session, so that the second packet is never read. -/
theorem serve_interprets_overtaken :
    (∀ arrival ∈ overtaken.filterMap Moment.arrival?, Fits arrival) ∧
    Interprets faltering ⟨"map646.conf", translator⟩ () overtaken
      (.through faltering ⟨"map646.conf", translator⟩ () true overtaken)
      (.through faltering ⟨"map646.conf", translator⟩ () overtaken) ∧
    (Service.through faltering ⟨"map646.conf", translator⟩ () true overtaken).waiting.arrivals =
      [.packet .inet6 [0x60]] := by
  have fits : ∀ arrival ∈ overtaken.filterMap Moment.arrival?, Fits arrival := by
    simp [overtaken, Moment.arrival?, Fits, receiveBufferLength]
  refine ⟨fits, serve_interprets _ _ _ _ _ fits, ?_⟩
  decide

end Session

end FamilyGateway
