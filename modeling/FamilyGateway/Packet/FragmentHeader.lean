import FamilyGateway.Wire

/-!
# The IPv6 Fragment header

Eight bytes: the protocol of the fragment, a reserved byte, thirteen bits of offset
in units of eight bytes, two reserved bits, the more-fragments flag, and an
identification. Reading ignores the reserved bits and writing clears them, so reading
undoes writing where the offset is a multiple of eight (`read?_encode`).
-/

set_option autoImplicit false

namespace FamilyGateway

/-- A Fragment header. -/
structure FragmentHeader where
  nextHeader : UInt8
  /-- Position of the fragment in its datagram, in bytes. -/
  offset : UInt16
  moreFragments : Bool
  identification : UInt32
  deriving DecidableEq, Repr

namespace FragmentHeader

/-- Length of the header. -/
def byteLength : Nat := 8

/-- The word that carries an offset, rounded down to a multiple of eight, and the more-fragments
flag. -/
def offsetWord (offset : UInt16) (moreFragments : Bool) : UInt16 :=
  offset / 8 * 8 + (if moreFragments then 1 else 0)

/-- The eight bytes of the header. -/
def encode (header : FragmentHeader) : Bytes :=
  [header.nextHeader, 0] ++ Wire.bytes16 (offsetWord header.offset header.moreFragments) ++
    Wire.bytes32 header.identification

/-- Reads the header in front of some bytes, and returns what follows it. -/
def read? : Bytes → Option (FragmentHeader × Bytes)
  | nextHeader :: _ :: o1 :: o2 :: i1 :: i2 :: i3 :: i4 :: rest =>
    let word := Wire.word o1 o2
    some (⟨nextHeader, word / 8 * 8, word % 2 = 1, Wire.long i1 i2 i3 i4⟩, rest)
  | _ => none

/-- Whether the header marks a true fragment, and not a whole datagram in one piece. -/
def isFragment (header : FragmentHeader) : Bool :=
  header.offset != 0 || header.moreFragments

@[simp] theorem length_encode (header : FragmentHeader) : header.encode.length = 8 := rfl

theorem toNat_offsetWord (offset : UInt16) (moreFragments : Bool) :
    (offsetWord offset moreFragments).toNat =
      offset.toNat / 8 * 8 + (if moreFragments then 1 else 0) := by
  have bound := offset.toNat_lt
  cases moreFragments <;>
    simp only [offsetWord, UInt16.toNat_add, UInt16.toNat_mul, UInt16.toNat_div,
      UInt16.reduceToNat, if_true, Bool.false_eq_true, if_false] <;>
    omega

/-- Reading a header gives it back if its offset can be written. -/
theorem read?_encode (header : FragmentHeader) (aligned : header.offset.toNat % 8 = 0)
    (rest : Bytes) : read? (header.encode ++ rest) = some (header, rest) := by
  have value := toNat_offsetWord header.offset header.moreFragments
  have offset : offsetWord header.offset header.moreFragments / 8 * 8 = header.offset := by
    have bound := header.offset.toNat_lt
    apply UInt16.toNat_inj.mp
    simp only [UInt16.toNat_mul, UInt16.toNat_div, UInt16.reduceToNat, value]
    cases header.moreFragments <;> simp <;> omega
  have flag : (offsetWord header.offset header.moreFragments % 2 = 1) =
      (header.moreFragments = true) := by
    rw [← UInt16.toNat_inj]
    simp only [UInt16.toNat_mod, UInt16.reduceToNat, value]
    cases header.moreFragments <;> simp <;> omega
  simp only [encode, Wire.bytes16, Wire.bytes32, List.cons_append, List.nil_append, read?,
    Wire.word_high_low, Wire.long_bytes32, offset, flag, Bool.decide_eq_true]

/-- The offset of a header that was read is a multiple of eight. -/
theorem offset_of_read? {bytes rest : Bytes} {header : FragmentHeader}
    (read : read? bytes = some (header, rest)) : header.offset.toNat % 8 = 0 := by
  unfold read? at read
  split at read
  next o1 o2 _ _ _ _ _ =>
    cases read
    have bound := (Wire.word o1 o2).toNat_lt
    simp only [UInt16.toNat_mul, UInt16.toNat_div, UInt16.reduceToNat]
    omega
  next => cases read

theorem length_of_read? {bytes rest : Bytes} {header : FragmentHeader}
    (read : read? bytes = some (header, rest)) : bytes.length = 8 + rest.length := by
  unfold read? at read
  split at read
  next => cases read; simp only [List.length_cons]; omega
  next => cases read

end FragmentHeader

end FamilyGateway
