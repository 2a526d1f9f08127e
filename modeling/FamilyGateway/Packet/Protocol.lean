import FamilyGateway.Address.Basic

/-!
# Protocol numbers

The upper-layer protocols that can cross between the families are TCP, UDP and
ICMP. The first two have one number in both families, ICMP has a number of its own
in each, and the number is read back in the family it was written in
(`ofNumber?_number`).
-/

set_option autoImplicit false

namespace FamilyGateway

/-- The next-header number of the IPv6 Fragment header. -/
def fragmentNumber : UInt8 := 44

/-- An upper-layer protocol that can cross. -/
inductive UpperProtocol where
  | tcp
  | udp
  | icmp
  deriving DecidableEq, Repr, Inhabited

namespace UpperProtocol

/-- The number that stands for a protocol in packets of a family. -/
def number : Family → UpperProtocol → UInt8
  | _, tcp => 6
  | _, udp => 17
  | .inet, icmp => 1
  | .inet6, icmp => 58

/-- The protocol that a number stands for in packets of a family. -/
def ofNumber? (family : Family) (number : UInt8) : Option UpperProtocol :=
  if number = tcp.number family then some tcp
  else if number = udp.number family then some udp
  else if number = icmp.number family then some icmp
  else none

@[simp] theorem ofNumber?_number (family : Family) (protocol : UpperProtocol) :
    ofNumber? family (protocol.number family) = some protocol := by
  cases family <;> cases protocol <;> rfl

end UpperProtocol

/-- Whether a next-header number names an IPv6 extension header. -/
def isExtensionHeader (number : UInt8) : Bool :=
  [0, 43, 44, 50, 51, 60, 135, 139, 140, 253, 254].contains number

end FamilyGateway
