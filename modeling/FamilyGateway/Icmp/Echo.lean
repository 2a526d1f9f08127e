import FamilyGateway.Icmp.Message

/-!
# Echo messages between the families

An echo request or reply becomes one of the other family by changing its type and
its checksum. The checksum of ICMP for IPv6 covers a pseudo-header and that of ICMP
for IPv4 does not, so the pseudo-header's sum enters on the way to IPv6 and leaves
on the way back.
-/

set_option autoImplicit false

namespace FamilyGateway.Icmp

/-- The type that an echo message for IPv4 takes in IPv6. -/
def typeInIpv6? (type : UInt8) : Option UInt8 :=
  if type = echoRequest then some echoRequestV6
  else if type = echoReply then some echoReplyV6
  else none

/-- The type that an echo message for IPv6 takes in IPv4. -/
def typeInIpv4? (type : UInt8) : Option UInt8 :=
  if type = echoRequestV6 then some echoRequest
  else if type = echoReplyV6 then some echoReply
  else none

/-- An echo message for IPv4 turned into one for IPv6 under a pseudo-header of the given sum. -/
def toIpv6 (pseudoSum : UInt32) (bytes : Bytes) : Except IcmpError Bytes := do
  let message ← IcmpMessage.read bytes
  match typeInIpv6? message.type with
  | none => .error (.unsupported message.type)
  | some type =>
    let retyped := { message with type := type }
    let checksum := Checksum.adjust message.checksum message.typeWord
      (Checksum.combine retyped.typeWord pseudoSum)
    .ok { retyped with checksum := checksum }.encode

/-- An echo message for IPv6 under a pseudo-header of the given sum turned into one for IPv4. -/
def toIpv4 (pseudoSum : UInt32) (bytes : Bytes) : Except IcmpError Bytes := do
  let message ← IcmpMessage.read bytes
  match typeInIpv4? message.type with
  | none => .error (.unsupportedV6 message.type)
  | some type =>
    let retyped := { message with type := type }
    let checksum := Checksum.adjust message.checksum
      (Checksum.combine message.typeWord pseudoSum) retyped.typeWord
    .ok { retyped with checksum := checksum }.encode

end FamilyGateway.Icmp
