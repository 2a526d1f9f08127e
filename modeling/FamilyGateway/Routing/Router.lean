import FamilyGateway.Address.Text
import FamilyGateway.Log

/-!
# Routers

A router installs the host routes that steer packets to the gateway's interface. The
gateway only says what to install; a router is anything that answers such calls, with
a state of its own, log lines of its own, and success or an error.

A `Routing` is a router's state together with the calls made so far, so that what was
asked of a router can be read off at the end.
-/

set_option autoImplicit false

namespace FamilyGateway

/-- A call to a router. -/
inductive RouteCall where
  /-- Route a single address to the gateway's interface. -/
  | addHost (address : Address)
  /-- Route a network to the gateway's interface. -/
  | addNetwork (network : Address) (length : Nat)
  /-- Look up traffic for a network in the gateway's own routing table. -/
  | addRule (network : Address) (length : Nat)
  /-- Remove everything that was installed for a family. -/
  | removeAll (family : Family)
  deriving DecidableEq, Repr

/-- A network or an address with the length of its prefix. -/
def destinationText (address : Address) (length : Nat) : String := s!"{address.text}/{length}"

/-- A call in a few words. -/
def RouteCall.text : RouteCall → String
  | addHost address => s!"host {address.text}"
  | addNetwork network length => s!"net {destinationText network length}"
  | addRule network length => s!"rule {destinationText network length}"
  | removeAll family => s!"remove {family.name}"

/-- A call that a router could not carry out. -/
structure RouteError where
  detail : String
  deriving DecidableEq, Repr

/-- What people are shown about a failed call. -/
def RouteError.message (error : RouteError) : String := s!"route operation failed: {error.detail}"

/-- What a router answers to a call. -/
structure RouterAnswer (ρ : Type) where
  state : ρ
  log : List LogLine
  result : Except RouteError Unit

/-- A router with states in `ρ`: its answer to each call. -/
abbrev Router (ρ : Type) := ρ → RouteCall → RouterAnswer ρ

/-- A router's state, the calls it was given, oldest first, and the log of what it did. -/
structure Routing (ρ : Type) where
  state : ρ
  calls : List RouteCall
  log : List LogLine

namespace Routing

variable {ρ : Type}

/-- A router that was not called yet. -/
def start (state : ρ) : Routing ρ := ⟨state, [], []⟩

/-- Writes a line to the log. -/
def note (routing : Routing ρ) (line : LogLine) : Routing ρ :=
  { routing with log := routing.log ++ [line] }

/-- Makes a call. -/
def call (router : Router ρ) (routing : Routing ρ) (call : RouteCall) :
    Routing ρ × Except RouteError Unit :=
  let answer := router routing.state call
  (⟨answer.state, routing.calls ++ [call], routing.log ++ answer.log⟩, answer.result)

/-- Makes a call whose failure is worth no more than a line in the log. -/
def attempt (router : Router ρ) (routing : Routing ρ) (call : RouteCall)
    (complaint : RouteError → LogLine) : Routing ρ :=
  match routing.call router call with
  | (routing, .ok ()) => routing
  | (routing, .error error) => routing.note (complaint error)

end Routing

end FamilyGateway
