import FamilyGateway.Log
import FamilyGateway.SystemError
import FamilyGateway.Text.Quoted
import FamilyGateway.Text.Utf8
import FamilyGateway.Tun.Frame

/-!
# Tun devices

A tun device is opened by attaching to an interface by name, and the kernel answers
with the name that it settled on. Afterwards each read takes one frame and each write
hands over one.

Frames that are too short for a header and frames of an unknown family are skipped
with a warning. A packet counts as sent when the kernel has taken the whole frame.
-/

set_option autoImplicit false

namespace FamilyGateway

/-! ## Opening -/

/-- The name and the flags with which the kernel is asked for an interface. -/
structure InterfaceRequest where
  /-- The name, padded with zeros to its field. -/
  name : Bytes
  flags : UInt16
  deriving DecidableEq, Repr

/-- Why a device cannot be opened. -/
inductive OpenError where
  /-- No interface can have this name. -/
  | invalidName (name : String)
  | system (error : SystemError)
  deriving DecidableEq, Repr

/-- What people are shown about a device that cannot be opened. -/
def OpenError.message : OpenError → String
  | invalidName name => s!"invalid interface name {Text.quoted name}"
  | system error => error.message

namespace InterfaceRequest

/-- Length of the field for an interface name. -/
def nameFieldLength : Nat := 16

/-- The flag that asks for a tun interface whose frames have headers. -/
def tunFlag : UInt16 := 1

/-- The request for an interface by name. The name must not be empty and must leave room for a zero
behind it. -/
def ofName (name : String) : Except OpenError InterfaceRequest :=
  let bytes := name.toUTF8.toList
  if bytes = [] ∨ nameFieldLength ≤ bytes.length then .error (.invalidName name)
  else .ok ⟨bytes ++ List.replicate (nameFieldLength - bytes.length) 0, tunFlag⟩

/-- The name that a field holds: what stands in front of the first zero. -/
def nameInField (field : Bytes) : String :=
  Text.Utf8.lossyText ((field.take nameFieldLength).takeWhile (· ≠ 0))

end InterfaceRequest

/-- A device that is attached to an interface. -/
structure TunDevice where
  /-- The interface name that the kernel settled on. -/
  name : String
  deriving DecidableEq, Repr

/-- What the kernel answers while a device is opened. -/
structure TunKernel where
  /-- Whether the device file can be opened. -/
  openFile : Except SystemError Unit
  /-- The name field after attaching to an interface. -/
  attach : InterfaceRequest → Except SystemError Bytes

/-- What opening a device leads to. -/
structure Opening where
  /-- The request that reached the kernel, if one did. -/
  request : Option InterfaceRequest
  result : Except OpenError TunDevice

namespace TunDevice

/-- Opens a device on the interface of the given name. -/
def openOn (kernel : TunKernel) (name : String) : Opening :=
  match InterfaceRequest.ofName name, kernel.openFile with
  | .error error, _ => ⟨none, .error error⟩
  | .ok _, .error error => ⟨none, .error (.system error)⟩
  | .ok request, .ok () =>
    match kernel.attach request with
    | .error error => ⟨some request, .error (.system error)⟩
    | .ok field => ⟨some request, .ok ⟨InterfaceRequest.nameInField field⟩⟩

end TunDevice

/-! ## Receiving -/

/-- What a read finds. -/
inductive Readable where
  | frame (bytes : Bytes)
  | failure (error : SystemError)
  deriving DecidableEq, Repr

/-- A packet that came through a device. -/
structure ReceivedPacket where
  family : Family
  bytes : Bytes
  deriving DecidableEq, Repr

/-- What one read amounts to. -/
inductive ReadResult where
  | packet (packet : ReceivedPacket)
  | failure (error : SystemError)
  /-- Nothing to hand on, with a warning about what was skipped. -/
  | skipped (warning : LogLine)
  /-- Nothing was there after all. -/
  | nothing
  deriving DecidableEq, Repr

/-- What receiving one packet leads to. -/
structure Receipt where
  /-- The packet or the error, or nothing if no more is waiting. -/
  result : Option (Except SystemError ReceivedPacket)
  log : List LogLine
  /-- What is still waiting. -/
  rest : List Readable

namespace TunDevice

/-- What is logged about a read that does not fill a header. -/
def shortReadWarning (device : TunDevice) (length : Nat) : LogLine :=
  .warn s!"short read of {length} bytes from {device.name}"

/-- What is logged about a frame of an unknown family. -/
def unknownFamilyWarning (device : TunDevice) (frame : Bytes) : LogLine :=
  .warn s!"ignoring packet with frame header {Frame.headerText frame} on {device.name}"

/-- What reading a frame amounts to. -/
def readFrame (device : TunDevice) (frame : Bytes) : ReadResult :=
  if frame.length < Frame.headerLength then .skipped (device.shortReadWarning frame.length)
  else
    match Frame.family? frame with
    | some family => .packet ⟨family, Frame.body frame⟩
    | none => .skipped (device.unknownFamilyWarning frame)

/-- What one read into a buffer of the given length amounts to. What does not fit behind the header
is lost. -/
def read (device : TunDevice) (buffer : Nat) : Readable → ReadResult
  | .frame bytes => device.readFrame (bytes.take (Frame.headerLength + buffer))
  | .failure error => if error = .wouldBlock then .nothing else .failure error

/-- Reads until there is a packet or an error to hand on, or nothing is waiting. -/
def receive (device : TunDevice) (buffer : Nat) : List Readable → Receipt
  | [] => ⟨none, [], []⟩
  | readable :: rest =>
    match device.read buffer readable with
    | .packet packet => ⟨some (.ok packet), [], rest⟩
    | .failure error => ⟨some (.error error), [], rest⟩
    | .skipped warning =>
      let receipt := device.receive buffer rest
      { receipt with log := warning :: receipt.log }
    | .nothing => device.receive buffer rest

theorem length_rest_receive (device : TunDevice) (buffer : Nat) (readable : Readable)
    (rest : List Readable) :
    (device.receive buffer (readable :: rest)).rest.length ≤ rest.length := by
  induction rest generalizing readable with
  | nil =>
    unfold receive
    split <;> simp [receive]
  | cons next rest ih =>
    unfold receive
    split
    · simp
    · simp
    · exact Nat.le_succ_of_le (ih next)
    · exact Nat.le_succ_of_le (ih next)

/-- What receiving leads to until nothing is waiting: the packets and errors, and the log. -/
def receiveAll (device : TunDevice) (buffer : Nat) :
    List Readable → List (Except SystemError ReceivedPacket) × List LogLine
  | [] => ([], [])
  | readable :: rest =>
    let receipt := device.receive buffer (readable :: rest)
    let later := device.receiveAll buffer receipt.rest
    (receipt.result.toList ++ later.1, receipt.log ++ later.2)
termination_by waiting => waiting.length
decreasing_by
  exact Nat.lt_succ_of_le (device.length_rest_receive buffer readable rest)

end TunDevice

/-! ## Sending -/

/-- Why a packet could not be sent. -/
inductive SendError where
  | system (error : SystemError)
  /-- The kernel took less than the whole frame, or claims more. -/
  | incomplete
  deriving DecidableEq, Repr

/-- What people are shown about a packet that could not be sent. -/
def SendError.message : SendError → String
  | system error => error.message
  | incomplete => "incomplete packet write"

/-- Writes a frame to a kernel whose states are in `σ`, and returns how many bytes it took. -/
abbrev FrameWriter (σ : Type) := σ → Bytes → σ × Except SystemError Nat

/-- Sends a packet in one write. -/
def TunDevice.send {σ : Type} (write : FrameWriter σ) (state : σ) (packet : OutboundPacket) :
    σ × Except SendError Unit :=
  let expected := Frame.headerLength + packet.length
  match write state (Frame.ofPacket packet) with
  | (state, .error error) => (state, .error (.system error))
  | (state, .ok taken) => (state, if taken = expected then .ok () else .error .incomplete)

end FamilyGateway
