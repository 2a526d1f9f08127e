import FamilyGateway.Icmp.Message
import FamilyGateway.PathMtu

/-!
# Path MTU feedback

Error messages never cross between the families. The two that report a path MTU,
"fragmentation needed" of ICMP for IPv4 and "packet too big" of ICMP for IPv6, are
read for the destination and the MTU that they report; all others are discarded.
The packet that caused the error is quoted in the message's data, and its
destination is the one whose path the report is about.
-/

set_option autoImplicit false

namespace FamilyGateway.Icmp

/-- A report that packets towards a destination may have at most this size. -/
structure Report where
  destination : Address
  mtu : UInt16
  deriving DecidableEq, Repr

/-- What becomes of an ICMP message from the IPv4 side. -/
inductive Advice where
  /-- The message is an echo message and crosses. -/
  | forward
  /-- The message ends here. It may carry a report. -/
  | discard (report : Option Report)
  /-- The message says that fragmentation is needed, but quotes no destination. -/
  | discardUnquoted
  deriving DecidableEq, Repr

/-- What is logged about a fragmentation-needed message that quotes no destination. -/
def unquotedWarning : String := "fragmentation-needed message without inner header"

/-- The destination of the IPv4 packet quoted in an error message. -/
def quotedIpv4Destination? (data : Bytes) : Option Ipv4Address :=
  (Ipv4Address.read? (data.drop 16)).map Prod.fst

/-- The destination of the IPv6 packet quoted in an error message. -/
def quotedIpv6Destination? (data : Bytes) : Option Ipv6Address :=
  (Ipv6Address.read? (data.drop 24)).map Prod.fst

/-- What becomes of a message from the IPv4 side. -/
def advise (bytes : Bytes) : Except IcmpError Advice := do
  let message ← IcmpMessage.read bytes
  if message.type = echoRequest ∨ message.type = echoReply then
    .ok .forward
  else if message.type = unreachable ∧ message.code = fragmentationNeeded then
    match quotedIpv4Destination? message.data with
    | some destination =>
      let mtu := max (Wire.lower message.parameter) (PathMtu.floor .inet)
      .ok (.discard (some ⟨.v4 destination, mtu⟩))
    | none => .ok .discardUnquoted
  else
    .ok (.discard none)

/-- A thirty-two bit MTU brought into the range of MTUs that an IPv6 path may have. -/
def clampIpv6Mtu (mtu : UInt32) : UInt16 :=
  (min (max mtu (PathMtu.floor .inet6).toUInt32) 65535).toUInt16

/-- The report in a packet-too-big message from the IPv6 side. -/
def readPacketTooBig (bytes : Bytes) : Except IcmpError Report := do
  let message ← IcmpMessage.read bytes
  if message.type = packetTooBig then
    match quotedIpv6Destination? message.data with
    | some destination => .ok ⟨.v6 destination, clampIpv6Mtu message.parameter⟩
    | none => .error (.truncated bytes.length)
  else
    .error (.unsupportedV6 message.type)

/-- Enters a report into the cache. -/
def Report.enter (report : Report) (cache : PathMtu.Cache) (now : Instant) : PathMtu.Cache :=
  cache.record report.destination report.mtu now

/-- The cache after a message from the IPv4 side was advised on. -/
def Advice.enter (advice : Advice) (cache : PathMtu.Cache) (now : Instant) : PathMtu.Cache :=
  match advice with
  | .discard (some report) => report.enter cache now
  | _ => cache

end FamilyGateway.Icmp
