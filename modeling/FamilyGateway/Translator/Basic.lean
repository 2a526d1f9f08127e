import FamilyGateway.Icmp.Notice
import FamilyGateway.Translator.Plan
import FamilyGateway.Translator.Surroundings

/-!
# The translator

A translator is the mapping table together with what it has learnt and granted: the
path MTU cache and one limiter for each kind of notice. `step` treats one packet. A
packet that is dropped leaves the translator as it was, because the plan for a packet
is made before anything is changed.
-/

set_option autoImplicit false

namespace FamilyGateway

/-- The state on which the treatment of packets depends. -/
structure Translator where
  table : MappingTable
  pathMtu : PathMtu.Cache
  /-- Grants fragmentation-needed notices. -/
  needFragLimiter : RateLimit.Limiter
  /-- Grants packet-too-big notices. -/
  tooBigLimiter : RateLimit.Limiter

namespace Translator

/-- A translator with an empty table that has treated no packet, and grants so many notices in each
window of some length. -/
def opening (cache : PathMtu.Cache) (window noticesPerWindow : Nat) : Translator :=
  ⟨.empty, cache, .every window noticesPerWindow, .every window noticesPerWindow⟩

/-- A translator with windows of one second. -/
def fresh (cache : PathMtu.Cache) (noticesPerWindow : Nat) : Translator :=
  opening cache RateLimit.window noticesPerWindow

/-- What treating a packet leads to: the translator afterwards, the packets to send, and what is
logged. -/
structure Outcome where
  translator : Translator
  packets : List OutboundPacket
  log : List LogLine

/-! ## Notices -/

/-- Tells the sender of an IPv4 packet which size would have fitted, unless the limiter or the
choice of a source address stands against it. -/
def notifyIpv4 (translator : Translator) (surroundings : Surroundings) (packet : Bytes)
    (sender : Ipv4Address) (mtu : UInt16) : Outcome :=
  let (granted, limiter) := translator.needFragLimiter.acquire surroundings.now
  let translator := { translator with needFragLimiter := limiter }
  if granted then
    match surroundings.ipv4Source sender with
    | .ok source => ⟨translator, [Icmp.fragmentationNeededNotice packet source sender mtu], []⟩
    | .error line => ⟨translator, [], [line]⟩
  else ⟨translator, [], []⟩

/-- Tells the sender of an IPv6 packet which size would have fitted, unless the limiter or the
choice of a source address stands against it. -/
def notifyIpv6 (translator : Translator) (surroundings : Surroundings) (packet : Bytes)
    (sender : Ipv6Address) (mtu : UInt32) : Outcome :=
  let (granted, limiter) := translator.tooBigLimiter.acquire surroundings.now
  let translator := { translator with tooBigLimiter := limiter }
  if granted then
    match surroundings.ipv6Source sender with
    | .ok source => ⟨translator, [Icmp.packetTooBigNotice packet source sender mtu], []⟩
    | .error line => ⟨translator, [], [line]⟩
  else ⟨translator, [], []⟩

/-- The outcome with more packets after its own. -/
def Outcome.andSend (outcome : Outcome) (packets : List OutboundPacket) : Outcome :=
  { outcome with packets := outcome.packets ++ packets }

/-! ## Treating packets -/

/-- Does what is planned for a packet. A packet that has to be cut is announced to its sender by a
notice in front of its fragments. -/
def carryOut (translator : Translator) (surroundings : Surroundings) : Plan → Outcome
  | .absorb none => ⟨translator, [], []⟩
  | .absorb (some report) =>
    ⟨{ translator with pathMtu := report.enter translator.pathMtu surroundings.now }, [], []⟩
  | .absorbUnquoted => ⟨translator, [], [.warn Icmp.unquotedWarning]⟩
  | .toIpv6 sender declared crossing =>
    let mtu := translator.pathMtu.lookup (.v6 crossing.destination)
    let packets := crossing.packets mtu surroundings.drawn
    if crossing.isSplit mtu then
      (translator.notifyIpv4 surroundings declared sender (FourToSix.advertisedMtu mtu)).andSend
        packets
    else ⟨translator, packets, []⟩
  | .toIpv4 sender arrived crossing =>
    let mtu := translator.pathMtu.lookup (.v4 crossing.destination)
    let packets := crossing.packets mtu surroundings.drawn
    if crossing.isSplit mtu then
      (translator.notifyIpv6 surroundings arrived sender (SixToFour.advertisedMtu mtu)).andSend
        packets
    else ⟨translator, packets, []⟩
  | .withinIpv6 packet => ⟨translator, [packet], []⟩

/-- What treating a packet leads to, or why it is dropped. -/
structure Step where
  translator : Translator
  result : Except DropReason (List OutboundPacket)
  log : List LogLine

/-- Treats a packet. A dropped packet changes nothing. -/
def step (translator : Translator) (surroundings : Surroundings) (family : Family)
    (packet : Bytes) : Step :=
  match Plan.ofPacket translator.table family packet with
  | .error reason => ⟨translator, .error reason, []⟩
  | .ok plan =>
    let outcome := translator.carryOut surroundings plan
    ⟨outcome.translator, .ok outcome.packets, outcome.log⟩

/-- What is logged about a dropped packet. -/
def dropWarning (family : Family) (reason : DropReason) : LogLine :=
  .warn s!"{family.name} packet dropped: {reason.message}"

/-- Treats a packet. A dropped packet is logged and sends nothing. -/
def translate (translator : Translator) (surroundings : Surroundings) (family : Family)
    (packet : Bytes) : Outcome :=
  let step := translator.step surroundings family packet
  match step.result with
  | .ok packets => ⟨step.translator, packets, step.log⟩
  | .error reason => ⟨step.translator, [], step.log ++ [dropWarning family reason]⟩

end Translator

end FamilyGateway
