import Std.Data.HashMap
import FamilyGateway.Address.Basic

/-!
# Path MTU cache

The cache remembers, for each destination, the largest packet that is reported to
get through. A destination without a report is taken to accept `defaultMtu`.

Reports are stamped in the order in which they arrive, so the entries can be put in
order of recency. When a report makes the cache outgrow its limit, the entries are
walked from the newest to the oldest: the walk stops at the first entry older than
the lifetime and after half of the limit, and what it has not reached is forgotten.
-/

set_option autoImplicit false

namespace FamilyGateway

/-- A point in time, in ticks of a clock after some fixed start. How long a tick is does not matter,
as long as lifetimes and windows are measured in it too: those that hold when none are configured
count milliseconds. -/
abbrev Instant := Nat

namespace PathMtu

/-- The MTU assumed where nothing was reported. -/
def defaultMtu : UInt16 := 1500

/-- The smallest MTU that a path of a family may have. -/
def floor : Family → UInt16
  | .inet => 68
  | .inet6 => 1280

/-- A remembered report. -/
structure Entry where
  mtu : UInt16
  updated : Instant
  /-- Larger is more recent. -/
  stamp : Nat
  deriving DecidableEq, Repr, Inhabited

/-- What is known about the paths to all destinations. -/
structure Cache where
  entries : Std.HashMap Address Entry
  /-- More entries than this are never kept. -/
  maxEntries : Nat
  /-- The age beyond which an entry does not survive an eviction. -/
  lifetime : Nat
  /-- The stamp of the next report. -/
  nextStamp : Nat

/-- The limit on the number of entries when none is configured. -/
def defaultMaxEntries : Nat := 10000

/-- The lifetime of an entry when none is configured: one hour, in milliseconds. -/
def defaultLifetime : Nat := 3600000

namespace Cache

/-- A cache without entries. It has room for at least two. -/
def empty (maxEntries lifetime : Nat) : Cache := ⟨∅, max maxEntries 2, lifetime, 0⟩

/-- A cache without entries, with the limit and the lifetime that hold when none are configured. -/
def standard : Cache := empty defaultMaxEntries defaultLifetime

/-- The MTU towards a destination. -/
def lookup (cache : Cache) (destination : Address) : UInt16 :=
  match cache.entries[destination]? with
  | some entry => entry.mtu
  | none => defaultMtu

/-- How many destinations are remembered. -/
def size (cache : Cache) : Nat := cache.entries.size

/-- The entries from the newest to the oldest. -/
def newestFirst (cache : Cache) : List (Address × Entry) :=
  cache.entries.toList.mergeSort fun left right => right.2.stamp ≤ left.2.stamp

/-- The entries that survive an eviction: from the newest on, up to the first one older than the
lifetime, and at most half of the limit. An entry from the future has no age. -/
def survivors (cache : Cache) (now : Instant) : List (Address × Entry) :=
  (cache.newestFirst.takeWhile fun entry => now - entry.2.updated ≤ cache.lifetime).take
    (cache.maxEntries / 2)

/-- Forgets everything but the survivors. -/
def evict (cache : Cache) (now : Instant) : Cache :=
  { cache with entries := Std.HashMap.ofList (cache.survivors now) }

/-- Takes in the MTU reported towards a destination, raised to the least value its family
allows, and makes room if the cache has outgrown its limit. -/
def record (cache : Cache) (destination : Address) (mtu : UInt16) (now : Instant) : Cache :=
  let entry : Entry := ⟨max mtu (floor destination.family), now, cache.nextStamp⟩
  let grown := { cache with
    entries := cache.entries.insert destination entry
    nextStamp := cache.nextStamp + 1 }
  if grown.maxEntries < grown.entries.size then grown.evict now else grown

end Cache

end PathMtu

end FamilyGateway
