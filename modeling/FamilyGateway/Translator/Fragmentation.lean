import FamilyGateway.Wire

/-!
# Cutting payloads into fragments

A payload that does not fit is cut into pieces whose lengths, all but the last one,
are the largest multiple of eight that fits, because fragment offsets count in units of
eight bytes. Putting the pieces together gives the payload back.
-/

set_option autoImplicit false

namespace FamilyGateway

/-- A piece of a payload. -/
structure Piece where
  /-- How many bytes of the payload stand before the piece. -/
  start : Nat
  data : Bytes
  /-- Whether the payload ends with the piece. -/
  last : Bool
  deriving DecidableEq, Repr

namespace Piece

/-- The length of the pieces that fit into `room` bytes: a multiple of eight, and at least eight. -/
def size (room : Nat) : Nat := max (room / 8 * 8) 8

theorem size_pos (room : Nat) : 0 < size room := by
  simp only [size]
  omega

/-- Cuts a payload that `start` bytes precede into pieces that fit into `room` bytes. -/
def cut (room start : Nat) (payload : Bytes) : List Piece :=
  if payload.length ≤ size room then
    [⟨start, payload, true⟩]
  else
    ⟨start, payload.take (size room), false⟩ ::
      cut room (start + size room) (payload.drop (size room))
termination_by payload.length
decreasing_by
  have := size_pos room
  simp only [List.length_drop]
  omega

/-- The pieces of a payload put together are the payload. -/
theorem flatten_cut (room start : Nat) (payload : Bytes) :
    ((cut room start payload).map Piece.data).flatten = payload := by
  fun_induction cut room start payload with
  | case1 start payload fits => simp
  | case2 start payload tooLong ih => simp [ih]

end Piece

end FamilyGateway
