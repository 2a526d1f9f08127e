import FamilyGateway.Address.Text
import FamilyGateway.Log
import FamilyGateway.RateLimit

/-!
# What a packet's treatment depends on besides the packet

Time, the choice of a source address for a notice, and a number drawn at random come
from outside. They are handed in as values, so that what happens to a packet is a
function.
-/

set_option autoImplicit false

namespace FamilyGateway

/-- What comes from outside while a packet is treated. -/
structure Surroundings where
  now : Instant
  /-- The address of this host from which to write to a destination, or why there is none. -/
  sourceFor : Address → Except String Address
  /-- The identification for a datagram that brings none of its own. -/
  drawn : UInt32

namespace Surroundings

/-- What is logged about a source address of the wrong family. -/
def wrongFamilyWarning (source destination : Address) : LogLine :=
  .warn s!"source address {source.text} for notice to {destination.text} has the wrong family"

/-- What is logged when there is no source address. -/
def noSourceWarning (destination : Address) (reason : String) : LogLine :=
  .warn s!"no source address for notice to {destination.text}: {reason}"

/-- The source address for a notice over IPv4, or what to log. -/
def ipv4Source (surroundings : Surroundings) (destination : Ipv4Address) :
    Except LogLine Ipv4Address :=
  match surroundings.sourceFor (.v4 destination) with
  | .ok (.v4 source) => .ok source
  | .ok other => .error (wrongFamilyWarning other (.v4 destination))
  | .error reason => .error (noSourceWarning (.v4 destination) reason)

/-- The source address for a notice over IPv6, or what to log. -/
def ipv6Source (surroundings : Surroundings) (destination : Ipv6Address) :
    Except LogLine Ipv6Address :=
  match surroundings.sourceFor (.v6 destination) with
  | .ok (.v6 source) => .ok source
  | .ok other => .error (wrongFamilyWarning other (.v6 destination))
  | .error reason => .error (noSourceWarning (.v6 destination) reason)

end Surroundings

end FamilyGateway
