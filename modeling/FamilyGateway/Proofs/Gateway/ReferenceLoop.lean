import FamilyGateway.Proofs.Gateway.Turns

/-!
# The reference loop

The reference loop handles one thing after the other: while a request is waiting, the
request; else, if nobody can make requests any more, the end; else the next arrival from
the device. It has no device that could fail: what a packet becomes is a matter of the
translator alone. It keeps a history of what it has handled, with the table that each
request left and the translator that each packet met.

One turn handles at most one thing (`Reference.turn_cases`). So what was handled and what
is still waiting are together what arrived, in order (`Reference.received_run`), and each
packet met the table that the last request before it has left (`Reference.met_run`).
-/

set_option autoImplicit false

namespace FamilyGateway

variable {ρ τ : Type}

/-- The host with a device that takes every packet. -/
def Host.plain (host : Host ρ τ) : Host ρ Unit where
  router := host.router
  send := fun _ _ => ((), .ok ())
  files := host.files
  surroundings := host.surroundings

namespace Session

/-- Something that was handled. -/
inductive Handled where
  /-- A request, and the table that it left. -/
  | request (request : ControlRequest) (table : MappingTable)
  | hangUp
  /-- A packet, and the translator and the surroundings that it met. -/
  | packet (translator : Translator) (surroundings : Surroundings) (family : Family) (bytes : Bytes)
  | failure (reason : String)

namespace Handled

/-- What is to be sent. -/
def packets : Handled → List OutboundPacket
  | packet translator surroundings family bytes =>
    (translator.translate surroundings family bytes).packets
  | _ => []

/-- What came from the device. -/
def arrival? : Handled → Option Arrival
  | packet _ _ family bytes => some (.packet family bytes)
  | failure reason => some (.failure reason)
  | _ => none

/-- The table that a request left. -/
def table? : Handled → Option MappingTable
  | request _ table => some table
  | _ => none

end Handled

/-! ## The loop -/

/-- Where the reference loop has led. -/
structure Reference (ρ : Type) extends Service ρ Unit where
  /-- What was handled, oldest first. -/
  history : List Handled

namespace Reference

variable {host : Host ρ Unit} {reference : Reference ρ}

/-- A loop that has handled nothing yet. -/
def opening (gateway : Gateway) (router : ρ) : Reference ρ where
  toService := .opening (fresh gateway router ())
  history := []

/-- Handles a request. -/
def request (host : Host ρ Unit) (reference : Reference ρ) : ControlRequest → Reference ρ
  | .reload =>
    match reference.session.reload host with
    | (session, .ok ()) =>
      { reference with
        session := session
        history := reference.history ++ [.request .reload session.table] }
    | (session, .error error) =>
      { reference with
        session := (session.note [reloadFailure error]).shutdown host
        ending := some (.error error)
        history := reference.history ++ [.request .reload session.table] }
  | .shutdown =>
    { reference with
      session := reference.session.shutdown host
      ending := some (.ok ())
      history := reference.history ++ [.request .shutdown reference.session.table] }

/-- Handles the end of requests. -/
def hangUp (host : Host ρ Unit) (reference : Reference ρ) : Reference ρ :=
  { reference with
    session := reference.session.shutdown host
    ending := some (.ok ())
    history := reference.history ++ [.hangUp] }

/-- Handles what came from the device: a packet as a whole, or why none can be read. -/
def arrival (host : Host ρ Unit) (reference : Reference ρ) : Arrival → Reference ρ
  | .packet family bytes =>
    let translator := reference.session.gateway.translator
    { reference with
      session := reference.session.translated
        (translator.translate host.surroundings family bytes)
      history := reference.history ++ [.packet translator host.surroundings family bytes] }
  | .failure reason =>
    { reference with
      session := (reference.session.note [readFailure reason]).shutdown host
      ending := some (.error (.device reason))
      history := reference.history ++ [.failure reason] }

/-- Handles a waiting request; if there is none, the end of requests if they have ended; else the
next arrival. -/
def turn (host : Host ρ Unit) (reference : Reference ρ) : Reference ρ :=
  match reference.waiting.requests with
  | request :: requests =>
    { reference with waiting := { reference.waiting with requests := requests } }.request host
      request
  | [] =>
    if reference.waiting.closed then reference.hangUp host
    else
      match reference.waiting.arrivals with
      | arrival :: arrivals =>
        { reference with waiting := { reference.waiting with arrivals := arrivals } }.arrival host
          arrival
      | [] => reference

/-- Takes so many turns, or fewer if the loop ends. -/
def turns (host : Host ρ Unit) : Nat → Reference ρ → Reference ρ
  | 0, reference => reference
  | count + 1, reference =>
    match reference.ending with
    | some _ => reference
    | none => turns host count (reference.turn host)

/-- Where a moment leads. -/
def advance (host : Host ρ Unit) (reference : Reference ρ) : Moment → Reference ρ
  | .supply supply => { reference with waiting := reference.waiting.supply supply }
  | .turns files surroundings count => turns (host.within files surroundings) count reference

/-- Where moments lead. -/
def run (host : Host ρ Unit) (reference : Reference ρ) (moments : List Moment) : Reference ρ :=
  moments.foldl (advance host) reference

/-! ## What a turn handles -/

/-- The table that a history leaves of one that was there at first. -/
def tableAfter (table : MappingTable) (history : List Handled) : MappingTable :=
  (history.filterMap Handled.table?).getLast?.getD table

/-- One thing was handled. -/
structure Handles (before after : Reference ρ) (handled : Handled) : Prop where
  history : after.history = before.history ++ [handled]
  /-- If it came from the device it was the first that was waiting. -/
  read : handled.arrival?.toList ++ after.waiting.arrivals = before.waiting.arrivals
  /-- Only a request leaves another table. -/
  left : after.session.table = handled.table?.getD before.session.table
  /-- A packet meets the table in force. -/
  met {translator : Translator} {surroundings : Surroundings} {family : Family} {bytes : Bytes}
    (packet : handled = .packet translator surroundings family bytes) :
    translator.table = before.session.table

theorem handles_request (host : Host ρ Unit) (reference : Reference ρ) (request : ControlRequest) :
    Handles reference (reference.request host request)
      (.request request (reference.request host request).session.table) := by
  cases request with
  | shutdown => exact ⟨rfl, rfl, rfl, nofun⟩
  | reload =>
      cases tried : reference.session.reload host with
      | mk session result =>
          simp only [Reference.request, tried]
          cases result with
          | ok => exact ⟨rfl, rfl, rfl, nofun⟩
          | error error => exact ⟨rfl, rfl, rfl, nofun⟩

theorem handles_hangUp (host : Host ρ Unit) (reference : Reference ρ) :
    Handles reference (reference.hangUp host) .hangUp :=
  ⟨rfl, rfl, rfl, nofun⟩

theorem exists_handles_arrival (host : Host ρ Unit) {arrival : Arrival} {arrivals : List Arrival}
    (next : reference.waiting.arrivals = arrival :: arrivals) :
    ∃ handled, Handles reference
      ({ reference with waiting := { reference.waiting with arrivals := arrivals } }.arrival host
        arrival) handled := by
  cases arrival with
  | packet family bytes =>
      have table := Translator.table_translate reference.session.gateway.translator
        host.surroundings family bytes
      refine ⟨_, rfl, next.symm, table, ?_⟩
      rintro translator surroundings family bytes ⟨⟩
      rfl
  | failure reason => exact ⟨.failure reason, rfl, next.symm, rfl, nofun⟩

/-- A turn handles one thing, or nothing because nothing is waiting. -/
theorem turn_cases (host : Host ρ Unit) (reference : Reference ρ) :
    reference.turn host = reference ∨
      ∃ handled, Handles reference (reference.turn host) handled := by
  unfold turn
  split
  next request requests _ =>
    obtain ⟨history, read, left, met⟩ := handles_request host
      { reference with waiting := { reference.waiting with requests := requests } } request
    exact .inr ⟨_, history, read, left, met⟩
  next =>
    split
    next => exact .inr ⟨_, handles_hangUp host reference⟩
    next =>
      split
      next arrival arrivals next => exact .inr (exists_handles_arrival host next)
      next => exact .inl rfl

/-! ## Whole runs -/

/-- A loop that has ended takes no more turns. -/
theorem turns_of_ended {ending : Except GatewayError Unit} (ended : reference.ending = some ending)
    (count : Nat) : reference.turns host count = reference := by
  cases count with
  | zero => rfl
  | succ count => simp only [turns, ended]

/-- A loop with nothing to do stays where it is. -/
theorem turns_of_idle (idle : reference.turn host = reference) (count : Nat) :
    reference.turns host count = reference := by
  induction count with
  | zero => rfl
  | succ count ih =>
      unfold turns
      rw [idle, ih]
      split <;> rfl

/-- What holds at first, and is kept whenever something is handled, holds after any turns. -/
theorem turns_induction {motive : Reference ρ → Prop}
    (step : ∀ {before after handled}, Handles before after handled → motive before → motive after)
    (host : Host ρ Unit) (count : Nat) (holds : motive reference) :
    motive (reference.turns host count) := by
  induction count generalizing reference with
  | zero => exact holds
  | succ count ih =>
      unfold turns
      split
      next => exact holds
      next =>
        rcases turn_cases host reference with same | ⟨handled, handles⟩
        · rw [same]
          exact ih holds
        · exact ih (step handles holds)

/-- What came from the device: what was handled of it and what is still waiting. -/
def received (reference : Reference ρ) : List Arrival :=
  reference.history.filterMap Handled.arrival? ++ reference.waiting.arrivals

theorem Handles.received {before after : Reference ρ} {handled : Handled}
    (handles : Handles before after handled) : after.received = before.received := by
  rw [Reference.received, Reference.received, handles.history, ← handles.read,
    List.filterMap_append, List.append_assoc]
  cases arrived : handled.arrival? with
  | none => simp only [List.filterMap_cons_none arrived, List.filterMap_nil, Option.toList_none]
  | some arrival =>
      simp only [List.filterMap_cons_some arrived, List.filterMap_nil, Option.toList_some]

theorem received_turn (host : Host ρ Unit) (reference : Reference ρ) :
    (reference.turn host).received = reference.received := by
  rcases turn_cases host reference with same | ⟨handled, handles⟩
  · rw [same]
  · exact handles.received

theorem received_turns (host : Host ρ Unit) (count : Nat) (reference : Reference ρ) :
    (reference.turns host count).received = reference.received :=
  turns_induction (motive := fun reached => reached.received = reference.received)
    (fun handles same => handles.received.trans same) host count rfl

theorem received_advance (host : Host ρ Unit) (moment : Moment) (reference : Reference ρ) :
    (reference.advance host moment).received = reference.received ++ moment.arrival?.toList := by
  cases moment with
  | supply supply =>
      change _ ++ (reference.waiting.supply supply).arrivals = _
      rw [Waiting.arrivals_supply, ← List.append_assoc]
      rfl
  | turns files surroundings count =>
      exact (received_turns _ count reference).trans (List.append_nil _).symm

/-- Nothing that came from the device is lost, handled twice, or handled out of order. -/
theorem received_run (host : Host ρ Unit) (moments : List Moment) (reference : Reference ρ) :
    (reference.run host moments).received =
      reference.received ++ moments.filterMap Moment.arrival? := by
  induction moments generalizing reference with
  | nil => exact (List.append_nil _).symm
  | cons moment moments ih =>
      rw [run, List.foldl_cons]
      refine (ih (reference.advance host moment)).trans ?_
      rw [received_advance, List.append_assoc, Moment.arrivals_cons]

theorem tableAfter_append (table : MappingTable) (history : List Handled) (handled : Handled) :
    tableAfter table (history ++ [handled]) =
      handled.table?.getD (tableAfter table history) := by
  rw [tableAfter, List.filterMap_append]
  cases left : handled.table? with
  | none => rw [List.filterMap_cons_none left, List.filterMap_nil, List.append_nil]; rfl
  | some table => rw [List.filterMap_cons_some left, List.filterMap_nil, List.getLast?_concat]; rfl

/-- Each packet met the table that the last request before it has left, and the last of all requests
has left the one in force. -/
structure Met (table : MappingTable) (reference : Reference ρ) : Prop where
  inForce : reference.session.table = tableAfter table reference.history
  packets {before after : List Handled} {translator : Translator} {surroundings : Surroundings}
    {family : Family} {bytes : Bytes}
    (split : reference.history =
      before ++ .packet translator surroundings family bytes :: after) :
    translator.table = tableAfter table before

theorem Handles.met_table {before after : Reference ρ} {handled : Handled} {table : MappingTable}
    (handles : Handles before after handled) (met : Met table before) : Met table after where
  inForce := by rw [handles.left, handles.history, tableAfter_append, met.inForce]
  packets {earlier later translator surroundings family bytes} split := by
    rw [handles.history] at split
    rcases List.eq_nil_or_concat later with rfl | ⟨others, last, rfl⟩
    · obtain ⟨rfl, packet⟩ := List.append_inj' split rfl
      rw [← met.inForce]
      exact handles.met (List.cons.inj packet).1
    · rw [List.concat_eq_append, ← List.cons_append, ← List.append_assoc] at split
      exact met.packets (List.append_inj' split rfl).1

/-- Each packet meets the table that the last request before it has left. -/
theorem met_run (host : Host ρ Unit) (moments : List Moment) {table : MappingTable}
    (met : Met table reference) : Met table (reference.run host moments) := by
  induction moments generalizing reference with
  | nil => exact met
  | cons moment moments ih =>
      have advanced : Met table (reference.advance host moment) := by
        cases moment with
        | supply supply => exact ⟨met.inForce, met.packets⟩
        | turns files surroundings count =>
            exact turns_induction (fun handles met => handles.met_table met) _ count met
      exact ih advanced

end Reference

end Session

end FamilyGateway
