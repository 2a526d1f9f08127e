import FamilyGateway.Gateway
import FamilyGateway.Proofs.Translator.Passage
import Mathlib.Data.List.Forall2

/-!
# Turn by turn

While a session serves, requests and packets become available in any order, and files
and surroundings change. A `Moment` is something that becomes available or a row of turns
with the files and surroundings of that time, so that a list of moments stands for one way
in which things can go. The router and the device stay the same; whether they fail is up
to the states they are in.

What holds after every turn holds after any moments (`Service.run_induction`), and `serve`
takes as many turns as it needs (`Session.serve_settles`). What treating a packet does
apart from the translator's part is to try to send, and a failed attempt leaves a line in
the log and nothing else (`Session.tries_send`).
-/

set_option autoImplicit false

namespace FamilyGateway

variable {ρ τ : Type}

/-! ## Moments -/

/-- Something that becomes available to a session. -/
inductive Supply where
  | request (request : ControlRequest)
  /-- Nobody is left who could make requests. -/
  | hangUp
  | arrival (arrival : Arrival)
  deriving DecidableEq, Repr

/-- What is waiting once something more became available. -/
def Waiting.supply (waiting : Waiting) : Supply → Waiting
  | .request request => waiting.addRequest request
  | .hangUp => { waiting with closed := true }
  | .arrival arrival => waiting.addArrival arrival

/-- A piece of the time in which a session serves. -/
inductive Moment where
  | supply (supply : Supply)
  /-- At most so many turns are taken, with these files and surroundings. -/
  | turns (files : FileReader) (surroundings : Surroundings) (count : Nat)

/-- What a moment brings from the device. -/
def Moment.arrival? : Moment → Option Arrival
  | .supply (.arrival arrival) => some arrival
  | _ => none

theorem Waiting.arrivals_supply (waiting : Waiting) (supply : Supply) :
    (waiting.supply supply).arrivals =
      waiting.arrivals ++ (Moment.supply supply).arrival?.toList := by
  cases supply with
  | request request =>
      have kept : (waiting.addRequest request).arrivals = waiting.arrivals := by
        unfold Waiting.addRequest
        split <;> rfl
      exact kept.trans (List.append_nil _).symm
  | hangUp => exact (List.append_nil _).symm
  | arrival arrival => rfl

theorem Moment.arrivals_cons (moment : Moment) (moments : List Moment) :
    (moment :: moments).filterMap Moment.arrival? =
      moment.arrival?.toList ++ moments.filterMap Moment.arrival? := by
  cases arrived : moment.arrival? with
  | none => rw [List.filterMap_cons_none arrived]; rfl
  | some arrival => rw [List.filterMap_cons_some arrived]; rfl

/-- The host with other files and surroundings. -/
def Host.within (host : Host ρ τ) (files : FileReader) (surroundings : Surroundings) : Host ρ τ :=
  { host with files := files, surroundings := surroundings }

namespace Session

/-- The table in force. -/
def table (session : Session ρ τ) : MappingTable := session.gateway.translator.table

namespace Service

/-- A session that begins to serve. -/
def opening (session : Session ρ τ) : Service ρ τ := ⟨session, .none, none⟩

/-- Where a moment leads. A session that has ended takes no more turns. -/
def advance (host : Host ρ τ) (service : Service ρ τ) : Moment → Service ρ τ
  | .supply supply => { service with waiting := service.waiting.supply supply }
  | .turns files surroundings count =>
    match service.ending with
    | some _ => service
    | none => serveTurns (host.within files surroundings) count service.session service.waiting

/-- Where moments lead. -/
def run (host : Host ρ τ) (service : Service ρ τ) (moments : List Moment) : Service ρ τ :=
  moments.foldl (advance host) service

/-- Once a session has ended nothing happens to it, and what still arrives keeps waiting. -/
theorem run_of_ended (host : Host ρ τ) {service : Service ρ τ} {ending : Except GatewayError Unit}
    (ended : service.ending = some ending) (moments : List Moment) :
    (service.run host moments).session = service.session ∧
      (service.run host moments).ending = service.ending ∧
      (service.run host moments).waiting.arrivals =
        service.waiting.arrivals ++ moments.filterMap Moment.arrival? := by
  induction moments generalizing service with
  | nil => exact ⟨rfl, rfl, (List.append_nil _).symm⟩
  | cons moment moments ih =>
      rw [Moment.arrivals_cons, ← List.append_assoc]
      cases moment with
      | supply supply =>
          rw [← Waiting.arrivals_supply]
          have supplied : ({ service with waiting := service.waiting.supply supply } :
              Service ρ τ).ending = some ending := ended
          exact ih supplied
      | turns files surroundings count =>
          have stays : service.advance host (.turns files surroundings count) = service := by
            simp only [advance, ended]
          have nothing : (Moment.turns files surroundings count).arrival?.toList = [] := rfl
          rw [nothing, List.append_nil, run, List.foldl_cons, stays]
          exact ih ended

end Service

/-- What holds before some turns and is kept by each of them holds after them. -/
theorem serveTurns_induction {motive : Service ρ τ → Prop} {host : Host ρ τ}
    (step : ∀ session waiting rest turn, nextTurn waiting = some (turn, rest) →
      motive ⟨session, waiting, none⟩ →
      motive ⟨(session.takeTurn host turn).1, rest, (session.takeTurn host turn).2⟩)
    (count : Nat) {session : Session ρ τ} {waiting : Waiting}
    (holds : motive ⟨session, waiting, none⟩) : motive (serveTurns host count session waiting) := by
  induction count generalizing session waiting with
  | zero => exact holds
  | succ count ih =>
      unfold serveTurns
      cases next : nextTurn waiting with
      | none => exact holds
      | some taken =>
          obtain ⟨turn, rest⟩ := taken
          have kept := step session waiting rest turn next holds
          dsimp only
          cases took : session.takeTurn host turn with
          | mk after ending =>
              rw [took] at kept
              cases ending with
              | none => exact ih kept
              | some ending => exact kept

/-- What holds at first, and is kept by whatever becomes available and by each turn, holds after
any moments. -/
theorem Service.run_induction {motive : Service ρ τ → Prop} {host : Host ρ τ}
    (supplied : ∀ service supply, motive service →
      motive { service with waiting := service.waiting.supply supply })
    (step : ∀ files surroundings session waiting rest turn, nextTurn waiting = some (turn, rest) →
      motive ⟨session, waiting, none⟩ →
      motive ⟨(session.takeTurn (host.within files surroundings) turn).1, rest,
        (session.takeTurn (host.within files surroundings) turn).2⟩)
    (moments : List Moment) {service : Service ρ τ} (holds : motive service) :
    motive (service.run host moments) := by
  induction moments generalizing service with
  | nil => exact holds
  | cons moment moments ih =>
      have advanced : motive (service.advance host moment) := by
        cases moment with
        | supply supply => exact supplied service supply holds
        | turns files surroundings count =>
            obtain ⟨session, waiting, ending⟩ := service
            cases ending with
            | some ending => exact holds
            | none => exact serveTurns_induction (step files surroundings) count holds
      exact ih advanced

/-! ## Enough turns -/

/-- Each turn takes something that was waiting, except the one that ends a session because
nobody can make requests. -/
theorem nextTurn_fewer {waiting rest : Waiting} {turn : Turn}
    (next : nextTurn waiting = some (turn, rest)) :
    turn = .hangUp ∨ rest.turns + 1 = waiting.turns := by
  obtain ⟨requests, closed, arrivals⟩ := waiting
  cases requests with
  | cons request requests =>
      cases next
      simp only [Waiting.turns, List.length_cons]
      omega
  | nil =>
      cases closed with
      | true => cases next; exact .inl rfl
      | false =>
          cases arrivals with
          | nil => cases next
          | cons arrival arrivals => cases next; exact .inr rfl

/-- After as many turns as there can be the session has ended or nothing is left to do. -/
theorem serveTurns_settles (host : Host ρ τ) (count : Nat) (session : Session ρ τ)
    (waiting : Waiting) (enough : waiting.turns ≤ count)
    (goesOn : (serveTurns host count session waiting).ending = none) :
    nextTurn (serveTurns host count session waiting).waiting = none := by
  induction count generalizing session waiting with
  | zero => simp only [Waiting.turns, Nat.le_zero_eq, Nat.add_eq_zero_iff] at enough; omega
  | succ count ih =>
      unfold serveTurns at goesOn ⊢
      cases next : nextTurn waiting with
      | none => exact next
      | some taken =>
          obtain ⟨turn, rest⟩ := taken
          rw [next] at goesOn
          dsimp only at goesOn ⊢
          cases took : session.takeTurn host turn with
          | mk after ending =>
              rw [took] at goesOn
              cases ending with
              | some ending => cases goesOn
              | none =>
                  rcases nextTurn_fewer next with rfl | fewer
                  · cases congrArg Prod.snd took
                  · exact ih after rest (by omega) goesOn

/-- Serving ends with the session, or when nothing is left to do. -/
theorem serve_settles (host : Host ρ τ) (session : Session ρ τ) (waiting : Waiting)
    (goesOn : (serve host session waiting).ending = none) :
    nextTurn (serve host session waiting).waiting = none :=
  serveTurns_settles host waiting.turns session waiting (Nat.le_refl _) goesOn

/-! ## Attempts to send -/

/-- For each attempt that failed there is a line in the log. -/
def Complained (attempts : List SendAttempt) (lines : List LogLine) : Prop :=
  List.Forall₂ (fun attempt line => ∃ reason, line = sendWarning attempt.packet reason)
    (attempts.filter fun attempt => !attempt.delivered) lines

theorem Complained.append {attempts more : List SendAttempt} {lines further : List LogLine}
    (first : Complained attempts lines) (second : Complained more further) :
    Complained (attempts ++ more) (lines ++ further) := by
  rw [Complained, List.filter_append]
  exact List.rel_append first second

/-- A session has tried to send some packets, each of them once, and did nothing else. -/
structure Tries (before : Session ρ τ) (packets : List OutboundPacket) (after : Session ρ τ)
    (attempts : List SendAttempt) (lines : List LogLine) : Prop where
  gateway : after.gateway = before.gateway
  router : after.router = before.router
  calls : after.calls = before.calls
  packets : attempts.map SendAttempt.packet = packets
  attempted : after.attempts = before.attempts ++ attempts
  logged : after.log = before.log ++ lines
  complained : Complained attempts lines

theorem tries_one (host : Host ρ τ) (session : Session ρ τ) (packet : OutboundPacket) :
    ∃ attempts lines, Tries session [packet] (session.send host packet) attempts lines := by
  unfold send
  split
  next device delivered =>
    exact ⟨[⟨packet, true⟩], [], rfl, rfl, rfl, rfl, rfl, rfl, .nil⟩
  next device reason refused =>
    exact ⟨[⟨packet, false⟩], [sendWarning packet reason], rfl, rfl, rfl, rfl, rfl, rfl,
      .cons ⟨reason, rfl⟩ .nil⟩

theorem Tries.trans {before between after : Session ρ τ} {packets more : List OutboundPacket}
    {attempts further : List SendAttempt} {lines others : List LogLine}
    (first : Tries before packets between attempts lines)
    (second : Tries between more after further others) :
    Tries before (packets ++ more) after (attempts ++ further) (lines ++ others) where
  gateway := second.gateway.trans first.gateway
  router := second.router.trans first.router
  calls := second.calls.trans first.calls
  packets := by rw [List.map_append, first.packets, second.packets]
  attempted := by rw [second.attempted, first.attempted, List.append_assoc]
  logged := by rw [second.logged, first.logged, List.append_assoc]
  complained := first.complained.append second.complained

/-- Sending packets tries each of them in order, whichever fail. -/
theorem tries_send (host : Host ρ τ) (packets : List OutboundPacket) (session : Session ρ τ) :
    ∃ attempts lines, Tries session packets (packets.foldl (send host) session) attempts lines := by
  induction packets generalizing session with
  | nil => exact ⟨[], [], rfl, rfl, rfl, rfl, (List.append_nil _).symm, (List.append_nil _).symm,
      .nil⟩
  | cons packet packets ih =>
      obtain ⟨attempts, lines, first⟩ := tries_one host session packet
      obtain ⟨further, others, rest⟩ := ih (session.send host packet)
      exact ⟨_, _, first.trans rest⟩

/-- The session once its translator has treated a packet and nothing is sent yet. -/
def translated (session : Session ρ τ) (outcome : Translator.Outcome) : Session ρ τ :=
  ({ session with gateway := { session.gateway with translator := outcome.translator } } :
    Session ρ τ).note outcome.log

/-- Treating a packet is translating it and trying to send what it became. -/
theorem tries_handlePacket (host : Host ρ τ) (session : Session ρ τ) (family : Family)
    (bytes : Bytes) {outcome : Translator.Outcome}
    (becomes : session.gateway.translator.translate host.surroundings family
      (bytes.take receiveBufferLength) = outcome) :
    ∃ attempts lines, Tries (session.translated outcome) outcome.packets
      (session.handlePacket host family bytes) attempts lines := by
  subst becomes
  exact tries_send host _ _

end Session

/-- Treating a packet leaves the table as it is, also if the packet is dropped. -/
theorem Translator.table_translate (translator : Translator) (surroundings : Surroundings)
    (family : Family) (packet : Bytes) :
    (translator.translate surroundings family packet).translator.table = translator.table := by
  rw [← table_step translator surroundings family packet]
  unfold translate
  dsimp only
  split <;> rfl

end FamilyGateway
