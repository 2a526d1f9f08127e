import FamilyGateway.PathMtu

/-!
# Rate limits on notices

A limiter grants a fixed number of notices in each window of a fixed length, one second
where nothing else is said. A window opens with the first request after the last one has
ended, so an idle limiter costs nothing and needs no timer.
-/

set_option autoImplicit false

namespace FamilyGateway.RateLimit

/-- Length of a window on a clock that ticks every millisecond. -/
def window : Nat := 1000

/-- Notices granted in a window when nothing else is configured. -/
def defaultLimit : Nat := 10

/-- A limiter and what it has granted in the current window. -/
structure Limiter where
  /-- When the current window opened, if one ever did. -/
  opened : Option Instant
  granted : Nat
  limit : Nat
  /-- How long a window is. -/
  window : Nat
  deriving DecidableEq, Repr, Inhabited

namespace Limiter

/-- A limiter with windows of some length that was never asked. -/
def every (window limit : Nat) : Limiter := ⟨none, 0, limit, window⟩

/-- A limiter that was never asked. -/
def fresh (limit : Nat) : Limiter := every RateLimit.window limit

/-- Whether the current window is over. A clock that went backwards ends no window. -/
def isOver (limiter : Limiter) (now : Instant) : Bool :=
  match limiter.opened with
  | some start => limiter.window ≤ now - start
  | none => true

/-- The limiter with a window that is open at `now`. -/
def refresh (limiter : Limiter) (now : Instant) : Limiter :=
  if limiter.isOver now then { limiter with opened := some now, granted := 0 } else limiter

/-- Asks for one notice: says whether it is granted, and what the limiter is afterwards. -/
def acquire (limiter : Limiter) (now : Instant) : Bool × Limiter :=
  let current := limiter.refresh now
  if current.granted < current.limit then
    (true, { current with granted := current.granted + 1 })
  else
    (false, current)

end Limiter

end FamilyGateway.RateLimit
