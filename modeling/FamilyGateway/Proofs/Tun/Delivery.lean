import FamilyGateway.Tun.Device

/-!
# What a device delivers

What a read finds is handed on or not, and what is not handed on is warned about if it is
a frame (`Readable.delivery?`, `TunDevice.warning?`). One call passes over what is not to
be handed on and ends at the first thing that is, or when nothing is waiting
(`TunDevice.Receives`). So the calls that follow one another hand on what there is to hand
on, the first call the first thing, the second call the second one, and so on
(`TunDevice.result_receive`).

A packet is sent as one frame, and that frame delivers the packet again
(`OutboundPacket.SentAs`).
-/

set_option autoImplicit false

namespace FamilyGateway

/-! ## What is waiting -/

namespace Readable

/-- What is handed on: the packet of a frame whose third and fourth byte name a family, and every
error but the one of a read that would have to wait. -/
def delivery? : Readable → Option (Except SystemError ReceivedPacket)
  | .frame (_ :: _ :: first :: second :: packet) =>
    if first = 0x08 ∧ second = 0x00 then some (.ok ⟨.inet, packet⟩)
    else if first = 0x86 ∧ second = 0xdd then some (.ok ⟨.inet6, packet⟩)
    else none
  | .frame _ => none
  | .failure error => if error = .wouldBlock then none else some (.error error)

/-- A frame is at most four bytes longer than the buffer. -/
def Fits (buffer : Nat) : Readable → Prop
  | .frame bytes => bytes.length ≤ 4 + buffer
  | .failure _ => True

end Readable

theorem Wire.word_eq_iff {first second : UInt8} {value : UInt16} :
    word first second = value ↔ first = high value ∧ second = low value := by
  constructor
  · rintro rfl
    exact ⟨(high_word first second).symm, (low_word first second).symm⟩
  · rintro ⟨rfl, rfl⟩
    exact word_high_low value

/-- The third and the fourth byte of a frame name its family. -/
theorem Frame.family?_cons (flag other first second : UInt8) (packet : Bytes) :
    Frame.family? (flag :: other :: first :: second :: packet) =
      if first = 0x08 ∧ second = 0x00 then some .inet
      else if first = 0x86 ∧ second = 0xdd then some .inet6
      else none := by
  have inet : Wire.word first second = 0x0800 ↔ first = 0x08 ∧ second = 0x00 := Wire.word_eq_iff
  have inet6 : Wire.word first second = 0x86dd ↔ first = 0x86 ∧ second = 0xdd := Wire.word_eq_iff
  simp only [Frame.family?, Family.ofEtherType?, inet, inet6]

namespace TunDevice

variable {device : TunDevice} {buffer : Nat} {waiting : List Readable}

/-- The warning about what is waiting: there is one about each frame that is not handed on. -/
def warning? (device : TunDevice) (readable : Readable) : Option LogLine :=
  match readable, readable.delivery? with
  | .frame bytes, none =>
    some (if bytes.length < 4 then device.shortReadWarning bytes.length
      else device.unknownFamilyWarning bytes)
  | _, _ => none

theorem warning?_of_delivery {readable : Readable} {delivery : Except SystemError ReceivedPacket}
    (found : readable.delivery? = some delivery) : device.warning? readable = none := by
  cases readable with
  | failure error => rfl
  | frame bytes => simp only [warning?, found]

/-- What a read amounts to that loses nothing. -/
theorem read_of_fits {readable : Readable} (fits : readable.Fits buffer) :
    device.read buffer readable =
      match readable.delivery?, device.warning? readable with
      | some (.ok packet), _ => .packet packet
      | some (.error error), _ => .failure error
      | none, some warning => .skipped warning
      | none, none => .nothing := by
  cases readable with
  | failure error =>
      simp only [read, Readable.delivery?]
      split <;> rfl
  | frame bytes =>
      have whole : bytes.take (Frame.headerLength + buffer) = bytes := List.take_of_length_le fits
      rw [read, whole, readFrame]
      match bytes with
      | [] | [_] | [_, _] | [_, _, _] => rfl
      | flag :: other :: first :: second :: packet =>
          have long : ¬(flag :: other :: first :: second :: packet).length < 4 := by simp
          rw [Frame.headerLength, if_neg long, Frame.family?_cons]
          simp only [warning?, Readable.delivery?, Frame.body, Frame.headerLength]
          by_cases inet : first = 0x08 ∧ second = 0x00
          · simp only [if_pos inet]
            rfl
          · by_cases inet6 : first = 0x86 ∧ second = 0xdd
            · simp only [if_neg inet, if_pos inet6]
              rfl
            · simp only [if_neg inet, if_neg inet6, if_neg long]

theorem receive_of_delivery {readable : Readable} {delivery : Except SystemError ReceivedPacket}
    (fits : readable.Fits buffer) (found : readable.delivery? = some delivery)
    (rest : List Readable) :
    device.receive buffer (readable :: rest) = ⟨some delivery, [], rest⟩ := by
  rw [receive, read_of_fits fits, found]
  cases delivery <;> rfl

theorem receive_of_silent {readable : Readable} (fits : readable.Fits buffer)
    (silent : readable.delivery? = none) (rest : List Readable) :
    device.receive buffer (readable :: rest) =
      { device.receive buffer rest with
        log := (device.warning? readable).toList ++ (device.receive buffer rest).log } := by
  rw [receive, read_of_fits fits, silent]
  cases device.warning? readable <;> rfl

/-! ## One call -/

/-- What a call makes of what is waiting. -/
inductive Receives (device : TunDevice) : List Readable → Receipt → Prop where
  /-- It passes over what is not to be handed on, and warns about it, up to something that is. -/
  | delivered (passed : List Readable) {readable : Readable} (rest : List Readable)
      {delivery : Except SystemError ReceivedPacket}
      (silent : ∀ earlier ∈ passed, earlier.delivery? = none)
      (found : readable.delivery? = some delivery) :
      Receives device (passed ++ readable :: rest)
        ⟨some delivery, passed.filterMap device.warning?, rest⟩
  /-- There is nothing to be handed on, and nothing is left. -/
  | pending {passed : List Readable} (silent : ∀ earlier ∈ passed, earlier.delivery? = none) :
      Receives device passed ⟨none, passed.filterMap device.warning?, []⟩

namespace Receives

variable {receipt : Receipt}

/-- Something else that is not to be handed on may stand in front. -/
theorem pass {readable : Readable} (silent : readable.delivery? = none)
    (receives : device.Receives waiting receipt) :
    device.Receives (readable :: waiting)
      { receipt with log := (device.warning? readable).toList ++ receipt.log } := by
  have log (passed : List Readable) : (device.warning? readable).toList ++
      passed.filterMap device.warning? = (readable :: passed).filterMap device.warning? := by
    rw [List.filterMap_cons]
    cases device.warning? readable <;> rfl
  cases receives with
  | delivered passed rest others found =>
      rw [log, ← List.cons_append]
      exact .delivered (readable :: passed) rest (List.forall_mem_cons.mpr ⟨silent, others⟩) found
  | pending others =>
      rw [log]
      exact .pending (List.forall_mem_cons.mpr ⟨silent, others⟩)

/-- What is handed on is the first thing that is to be. -/
theorem result_eq (receives : device.Receives waiting receipt) :
    receipt.result = (waiting.filterMap Readable.delivery?).head? := by
  cases receives with
  | delivered passed rest silent found =>
      rw [List.filterMap_append, List.filterMap_eq_nil_iff.mpr silent, List.nil_append,
        List.filterMap_cons_some found]
      rfl
  | pending silent => rw [List.filterMap_eq_nil_iff.mpr silent]; rfl

/-- What is left to be handed on is everything after it. -/
theorem filterMap_rest (receives : device.Receives waiting receipt) :
    receipt.rest.filterMap Readable.delivery? = (waiting.filterMap Readable.delivery?).tail := by
  cases receives with
  | delivered passed rest silent found =>
      rw [List.filterMap_append, List.filterMap_eq_nil_iff.mpr silent, List.nil_append,
        List.filterMap_cons_some found]
      rfl
  | pending silent => rw [List.filterMap_eq_nil_iff.mpr silent]; rfl

/-- What is passed over is warned about, and what is left is not. -/
theorem log_append (receives : device.Receives waiting receipt) :
    receipt.log ++ receipt.rest.filterMap device.warning? = waiting.filterMap device.warning? := by
  cases receives with
  | delivered passed rest silent found =>
      rw [List.filterMap_append, List.filterMap_cons_none (warning?_of_delivery found)]
  | pending silent => exact List.append_nil _

theorem rest_suffix (receives : device.Receives waiting receipt) : receipt.rest <:+ waiting := by
  cases receives with
  | delivered passed rest silent found => exact ⟨_, (List.append_cons ..).symm⟩
  | pending silent => exact List.nil_suffix

end Receives

/-- A call delivers the first thing that there is to deliver. -/
theorem receives_receive (fits : ∀ readable ∈ waiting, readable.Fits buffer) :
    device.Receives waiting (device.receive buffer waiting) := by
  induction waiting with
  | nil => exact .pending fun _ absent => nomatch absent
  | cons readable waiting ih =>
      obtain ⟨first, later⟩ := List.forall_mem_cons.mp fits
      cases found : readable.delivery? with
      | none =>
          rw [receive_of_silent first found]
          exact (ih later).pass found
      | some delivery =>
          rw [receive_of_delivery first found]
          exact .delivered [] waiting (fun _ absent => nomatch absent) found

/-! ## Calls one after the other -/

/-- What is still waiting after so many calls. -/
def waitingAfter (device : TunDevice) (buffer : Nat) (waiting : List Readable) :
    Nat → List Readable
  | 0 => waiting
  | calls + 1 => (device.receive buffer (device.waitingAfter buffer waiting calls)).rest

theorem fits_waitingAfter (fits : ∀ readable ∈ waiting, readable.Fits buffer) (calls : Nat) :
    ∀ readable ∈ device.waitingAfter buffer waiting calls, readable.Fits buffer := by
  induction calls with
  | zero => exact fits
  | succ calls ih =>
      exact fun readable member => ih readable ((receives_receive ih).rest_suffix.subset member)

theorem receives_waitingAfter (device : TunDevice)
    (fits : ∀ readable ∈ waiting, readable.Fits buffer) (calls : Nat) :
    device.Receives (device.waitingAfter buffer waiting calls)
      (device.receive buffer (device.waitingAfter buffer waiting calls)) :=
  receives_receive (fits_waitingAfter fits calls)

/-- So many calls have delivered so many things, and nothing else is lost. -/
theorem filterMap_waitingAfter (fits : ∀ readable ∈ waiting, readable.Fits buffer) (calls : Nat) :
    (device.waitingAfter buffer waiting calls).filterMap Readable.delivery? =
      (waiting.filterMap Readable.delivery?).drop calls := by
  induction calls with
  | zero => rfl
  | succ calls ih =>
      rw [waitingAfter, (device.receives_waitingAfter fits calls).filterMap_rest, ih,
        List.tail_drop]

/-- The calls deliver one thing after the other. -/
theorem result_receive (fits : ∀ readable ∈ waiting, readable.Fits buffer) (calls : Nat) :
    (device.receive buffer (device.waitingAfter buffer waiting calls)).result =
      (waiting.filterMap Readable.delivery?)[calls]? := by
  rw [(device.receives_waitingAfter fits calls).result_eq, filterMap_waitingAfter fits,
    List.head?_drop]

/-- Receiving until nothing is waiting delivers all there is to deliver, and warns about each other
frame once. -/
theorem receiveAll_eq (device : TunDevice) {waiting : List Readable}
    (fits : ∀ readable ∈ waiting, readable.Fits buffer) :
    device.receiveAll buffer waiting =
      (waiting.filterMap Readable.delivery?, waiting.filterMap device.warning?) := by
  fun_induction receiveAll device buffer waiting with
  | case1 => rfl
  | case2 readable rest receipt later ih =>
      have receives : device.Receives (readable :: rest) receipt := receives_receive fits
      have left := ih fun readable member => fits readable (receives.rest_suffix.subset member)
      have results : receipt.result.toList ++ receipt.rest.filterMap Readable.delivery? =
          (readable :: rest).filterMap Readable.delivery? := by
        rw [receives.result_eq, receives.filterMap_rest]
        cases (readable :: rest).filterMap Readable.delivery? <;> rfl
      rw [show later = _ from left, results, receives.log_append]

end TunDevice

/-! ## Sending -/

/-- A packet is sent as a frame. -/
structure OutboundPacket.SentAs (packet : OutboundPacket) (frame : Bytes) : Prop where
  /-- The frame is four bytes longer than the packet. -/
  length : frame.length = 4 + packet.length
  /-- The kernel is handed the frame once, and sending succeeds exactly if it takes all of it. -/
  succeeds {σ : Type} (write : FrameWriter σ) (state : σ) :
    (TunDevice.send write state packet).1 = (write state frame).1 ∧
      ((TunDevice.send write state packet).2 = .ok () ↔
        (write state frame).2 = .ok frame.length)
  /-- A device that finds the frame and has room for it delivers the packet. -/
  delivered (device : TunDevice) {buffer : Nat} (room : packet.length ≤ buffer)
    (rest : List Readable) :
    device.receive buffer (.frame frame :: rest) =
      ⟨some (.ok ⟨packet.family, packet.bytes⟩), [], rest⟩

theorem Frame.delivery?_ofPacket (packet : OutboundPacket) :
    (Readable.frame (ofPacket packet)).delivery? = some (.ok ⟨packet.family, packet.bytes⟩) := by
  cases family : packet.family <;> rw [ofPacket, family] <;> rfl

theorem OutboundPacket.sentAs_ofPacket (packet : OutboundPacket) :
    packet.SentAs (Frame.ofPacket packet) where
  length := Frame.length_ofPacket packet
  succeeds write state := by
    -- What is expected is counted from the packet and not from the frame that is written.
    rw [TunDevice.send, Frame.length_ofPacket]
    rcases write state (Frame.ofPacket packet) with ⟨next, error | taken⟩
    · simp
    · simp
  delivered device buffer room rest := by
    have fits : (Readable.frame (Frame.ofPacket packet)).Fits buffer := by
      rw [Readable.Fits, Frame.length_ofPacket]
      exact Nat.add_le_add_left room 4
    exact TunDevice.receive_of_delivery fits (Frame.delivery?_ofPacket packet) rest

/-! ## Both ways -/

namespace TunDevice

variable {device : TunDevice} {buffer : Nat} {waiting : List Readable}

/-- What a device carries. -/
structure CarriesPackets (device : TunDevice) (buffer : Nat) (waiting : List Readable) : Prop where
  /-- Each call passes over what is not to be handed on, with one warning about each frame, up to
  the first thing that is, or is pending with nothing left. -/
  call (calls : Nat) : device.Receives (device.waitingAfter buffer waiting calls)
    (device.receive buffer (device.waitingAfter buffer waiting calls))
  /-- The calls hand on all there is to hand on, one thing after the other. -/
  result (calls : Nat) : (device.receive buffer (device.waitingAfter buffer waiting calls)).result =
    (waiting.filterMap Readable.delivery?)[calls]?
  /-- In the end all of it was delivered, and there was one warning about each other frame. -/
  all : device.receiveAll buffer waiting =
    (waiting.filterMap Readable.delivery?, waiting.filterMap device.warning?)
  /-- Every packet is sent as one frame that delivers it. -/
  sent (packet : OutboundPacket) : ∃ frame, packet.SentAs frame

/-- **A device delivers exactly the packets of its frames**, in order, and its frames carry exactly
the packets that are sent. -/
theorem carries_packets (device : TunDevice) (fits : ∀ readable ∈ waiting, readable.Fits buffer) :
    device.CarriesPackets buffer waiting where
  call := device.receives_waitingAfter fits
  result := result_receive fits
  all := device.receiveAll_eq fits
  sent packet := ⟨Frame.ofPacket packet, packet.sentAs_ofPacket⟩

/-- A short frame and one of an unknown family among packets and errors. -/
def mixedReads : List Readable :=
  [.failure .wouldBlock, .frame [0, 0], .frame [1, 2, 0x08, 0x00, 0x45],
    .frame [0, 0, 0x08, 0x06, 0], .failure ⟨5⟩, .frame [9, 9, 0x86, 0xdd, 0x60]]

theorem carries_packets_mixedReads : (∀ readable ∈ mixedReads, readable.Fits 1) ∧
    CarriesPackets ⟨"tun0"⟩ 1 mixedReads := by
  have fits : ∀ readable ∈ mixedReads, readable.Fits 1 := by
    simp [mixedReads, Readable.Fits]
  exact ⟨fits, carries_packets _ fits⟩

example : mixedReads.filterMap Readable.delivery? =
    [.ok ⟨.inet, [0x45]⟩, .error ⟨5⟩, .ok ⟨.inet6, [0x60]⟩] := by
  rfl

end TunDevice

end FamilyGateway
