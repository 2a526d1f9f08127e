import FamilyGateway.Proofs.Checksum.Serialized
import FamilyGateway.Proofs.Packet.Layout

/-!
# Computations that check what they do

Lists are never read out of bounds, and numbers of fixed width wrap around in silence, so
neither shows in what a function returns. A `Checked` computation does one access and one
addition after the other, and ends with a fault at the first position outside of what is
looked at and at the first number that outgrows its width. It may also end with a reason to
drop the packet, which is something else (`Halt`).

There are few operations. Bytes are read (`Checked.byteAt`, `Checked.wordAt`,
`Checked.longAt`), cut out (`Checked.part`) and written over (`Checked.put`, `Checked.write`),
and lengths and words are added (`Checked.addSize`, `Checked.mulSize`, `Checked.addWord`). Each
has a lemma that says when it succeeds and with what. Sums for checksums are checked in
`Checksum.Checked` and taken over from there.
-/

set_option autoImplicit false

namespace FamilyGateway

/-- Why a computation has no result. -/
inductive Halt where
  /-- A position is outside of what is looked at, or a number outgrows its width. -/
  | fault
  | drop (reason : DropReason)
  deriving DecidableEq, Repr

/-- A computation that checks what it does. -/
abbrev Checked (α : Type) := Except Halt α

namespace Checked

variable {α β : Type}

/-- The computation ends as some function does, and without a fault. -/
def ofResult : Except DropReason α → Checked α
  | .ok value => .ok value
  | .error reason => .error (.drop reason)

/-- The value of a computation that is none after a fault. -/
def ofOption : Option α → Checked α
  | some value => .ok value
  | none => .error .fault

/-- Goes on if a condition holds. -/
def require (condition : Prop) [Decidable condition] : Checked Unit :=
  if condition then .ok () else .error .fault

/-- Drops the packet. -/
def drop (reason : DropReason) : Checked α := .error (.drop reason)

/-- What comes after a step that has a value. -/
theorem bind_ok {computation : Checked α} {value : α} (ends : computation = .ok value)
    (next : α → Checked β) : (computation >>= next) = next value := by
  rw [ends]
  rfl

/-! ## Bytes -/

/-- The byte at a position. -/
def byteAt (bytes : Bytes) (position : Nat) : Checked UInt8 := ofOption bytes[position]?

/-- The word at a position. -/
def wordAt (bytes : Bytes) (position : Nat) : Checked UInt16 := do
  let first ← byteAt bytes position
  let second ← byteAt bytes (position + 1)
  .ok (Wire.word first second)

/-- The thirty-two bit number at a position. -/
def longAt (bytes : Bytes) (position : Nat) : Checked UInt32 := do
  let first ← byteAt bytes position
  let second ← byteAt bytes (position + 1)
  let third ← byteAt bytes (position + 2)
  let fourth ← byteAt bytes (position + 3)
  .ok (Wire.long first second third fourth)

/-- The bytes from one position up to another, if they are there. -/
def part? (bytes : Bytes) (start stop : Nat) : Option Bytes :=
  if start ≤ stop ∧ stop ≤ bytes.length then some ((bytes.drop start).take (stop - start)) else none

/-- The bytes from one position up to another. -/
def part (bytes : Bytes) (start stop : Nat) : Checked Bytes := ofOption (part? bytes start stop)

/-- Writes a byte over the one at a position. -/
def put (bytes : Bytes) (position : Nat) (byte : UInt8) : Checked Bytes :=
  if position < bytes.length then .ok (bytes.set position byte) else .error .fault

/-- Writes bytes over those from one position up to another, of which there must be as many. -/
def write (bytes : Bytes) (start stop : Nat) (data : Bytes) : Checked Bytes :=
  if start ≤ stop ∧ stop ≤ bytes.length ∧ data.length = stop - start then
    .ok (bytes.take start ++ data ++ bytes.drop stop)
  else .error .fault

/-- A position among some bytes has a byte. -/
theorem exists_byteAt {bytes : Bytes} {position : Nat} (inside : position < bytes.length) :
    ∃ byte, byteAt bytes position = .ok byte := by
  refine ⟨bytes[position], ?_⟩
  rw [byteAt, List.getElem?_eq_getElem inside, ofOption]

theorem part_eq {bytes : Bytes} {start stop : Nat} (ordered : start ≤ stop)
    (inside : stop ≤ bytes.length) :
    part bytes start stop = .ok ((bytes.drop start).take (stop - start)) := by
  rw [part, part?, if_pos ⟨ordered, inside⟩, ofOption]

/-- The bytes in front of a position. -/
theorem part_zero {bytes : Bytes} {stop : Nat} (inside : stop ≤ bytes.length) :
    part bytes 0 stop = .ok (bytes.take stop) :=
  part_eq (Nat.zero_le stop) inside

/-- The bytes from a position on. -/
theorem part_length {bytes : Bytes} {start : Nat} (inside : start ≤ bytes.length) :
    part bytes start bytes.length = .ok (bytes.drop start) := by
  rw [part_eq inside (Nat.le_refl _), ← List.length_drop, List.take_length]

theorem put_eq {bytes : Bytes} {position : Nat} (inside : position < bytes.length)
    (byte : UInt8) : put bytes position byte = .ok (bytes.set position byte) :=
  if_pos inside

theorem write_eq {bytes data : Bytes} {start stop : Nat} (ordered : start ≤ stop)
    (inside : stop ≤ bytes.length) (exact : data.length = stop - start) :
    write bytes start stop data = .ok (bytes.take start ++ data ++ bytes.drop stop) :=
  if_pos ⟨ordered, inside, exact⟩

/-! ## Lengths and words -/

/-- The sum of two lengths or positions. -/
def addSize (left right : Nat) : Checked Nat :=
  if left + right < UInt64.size then .ok (left + right) else .error .fault

/-- The product of two lengths or positions. -/
def mulSize (left right : Nat) : Checked Nat :=
  if left * right < UInt64.size then .ok (left * right) else .error .fault

/-- The sum of two counts of thirty-two bits. -/
def addCount (left right : Nat) : Checked Nat :=
  if left + right < UInt32.size then .ok (left + right) else .error .fault

/-- The sum of two words. -/
def addWord (left right : UInt16) : Checked UInt16 :=
  if left.toNat + right.toNat < 65536 then .ok (left + right) else .error .fault

theorem addSize_eq {left right : Nat} (fits : left + right ≤ 4294967295) :
    addSize left right = .ok (left + right) :=
  if_pos (Nat.lt_of_le_of_lt fits (by decide))

theorem mulSize_eq {left right : Nat} (fits : left * right ≤ 4294967295) :
    mulSize left right = .ok (left * right) :=
  if_pos (Nat.lt_of_le_of_lt fits (by decide))

theorem addWord_eq {left right : UInt16} (fits : left.toNat + right.toNat ≤ 65535) :
    addWord left right = .ok (left + right) :=
  if_pos (Nat.lt_succ_of_le fits)

end Checked

end FamilyGateway
