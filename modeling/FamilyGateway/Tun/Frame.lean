import FamilyGateway.Packet.Outbound
import FamilyGateway.Text.Hex

/-!
# Frames of a tun device

Every packet that is read from or written to a tun device stands behind four bytes:
two bytes of flags, which are zero on the way out and ignored on the way in, and the
ethertype of the packet's family. The header of a family names that family again
(`family?_header`), and what stands behind the header of a frame is the packet
(`body_ofPacket`).
-/

set_option autoImplicit false

namespace FamilyGateway.Frame

/-- Length of the header in front of a packet. -/
def headerLength : Nat := 4

/-- The header in front of a packet of the given family. -/
def header (family : Family) : Bytes := [0, 0] ++ Wire.bytes16 family.etherType

/-- The family that the header of a frame names, if it is known. -/
def family? : Bytes → Option Family
  | _ :: _ :: first :: second :: _ => Family.ofEtherType? (Wire.word first second)
  | _ => none

/-- The packet behind the header of a frame. -/
def body (frame : Bytes) : Bytes := frame.drop headerLength

/-- The frame of a packet that is sent. -/
def ofPacket (packet : OutboundPacket) : Bytes := header packet.family ++ packet.bytes

/-- The header of a frame as messages show it. -/
def headerText (frame : Bytes) : String :=
  let bytes := (frame.take headerLength).map fun byte => Text.Hex.text [byte]
  "[" ++ ", ".intercalate bytes ++ "]"

@[simp] theorem family?_header (family : Family) (rest : Bytes) :
    family? (header family ++ rest) = some family := by
  cases family <;> rfl

@[simp] theorem length_header (family : Family) : (header family).length = headerLength := rfl

theorem body_ofPacket (packet : OutboundPacket) : body (ofPacket packet) = packet.bytes := by
  rw [body, ofPacket, ← length_header packet.family, List.drop_left]

theorem length_ofPacket (packet : OutboundPacket) :
    (ofPacket packet).length = headerLength + packet.length := by
  rw [ofPacket, List.length_append, length_header, packet.length_bytes]

end FamilyGateway.Frame
