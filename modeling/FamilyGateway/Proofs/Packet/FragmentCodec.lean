import FamilyGateway.Proofs.Packet.Layout

/-!
# Fragment headers, written and read

Any eight bytes are a Fragment header, and no fewer are (`FragmentHeader.exists_read?_iff`).
Reading takes every bit of them but the reserved ones, so writing what was read gives the same
bytes with the reserved bits cleared (`FragmentHeader.decodes_of_read?`). Writing takes every
field but the last three bits of the offset, so reading what was written gives the same header
with the offset rounded down to a multiple of eight (`FragmentHeader.read?_encode_floored`). On
offsets that are multiples of eight, which are all that are ever read, reading undoes writing.
-/

set_option autoImplicit false

namespace FamilyGateway.FragmentHeader

/-! ## From bytes to headers -/

/-- The third and the fourth byte of a header as a number: thirteen bits of offset, two reserved
bits, and the flag that more fragments follow. -/
def offsetBits : Bytes → Nat
  | _ :: _ :: high :: low :: _ => high.toNat * 256 + low.toNat
  | _ => 0

/-- A header can be read off eight bytes, and off no fewer. -/
theorem exists_read?_iff {bytes : Bytes} :
    (∃ header rest, read? bytes = some (header, rest)) ↔ 8 ≤ bytes.length := by
  constructor
  · rintro ⟨header, rest, found⟩
    rw [length_of_read? found]
    exact Nat.le_add_right 8 _
  · intro long
    match bytes, long with
    | _ :: _ :: _ :: _ :: _ :: _ :: _ :: _ :: _, _ => exact ⟨_, _, rfl⟩

/-- What is known about a header that was read off some bytes, in front of a rest. -/
structure Decodes (bytes : Bytes) (header : FragmentHeader) (rest : Bytes) : Prop where
  /-- The header is the first eight bytes, whatever stands behind them. -/
  first : ∀ other, read? (bytes.take 8 ++ other) = some (header, other)
  rest : rest = bytes.drop 8
  offset : header.offset.toNat = offsetBits bytes / 8 * 8
  moreFragments : header.moreFragments = true ↔ offsetBits bytes % 2 = 1
  aligned : header.offset.toNat % 8 = 0
  /-- It is written as the bytes it was read off, without the reserved bits. -/
  encode : header.encode = clearReserved (bytes.take 8)
  /-- It is not the header of a fragment exactly if no bit of the offset and no flag is set,
  whatever the reserved bits are. -/
  whole : header.isFragment = false ↔ offsetBits bytes / 8 = 0 ∧ offsetBits bytes % 2 = 0

/-- **Nothing but the reserved bits is lost** where a header is read. -/
theorem decodes_of_read? {bytes rest : Bytes} {header : FragmentHeader}
    (found : read? bytes = some (header, rest)) : Decodes bytes header rest := by
  have aligned := offset_of_read? found
  obtain ⟨raw, stands, rfl⟩ := exists_raw_of_read? found
  have first : (raw ++ rest).take 8 = raw := List.take_left' stands.length
  have behind : (raw ++ rest).drop 8 = rest := List.drop_left' stands.length
  obtain ⟨offset, moreFragments⟩ : header.offset.toNat = offsetBits (raw ++ rest) / 8 * 8 ∧
      (header.moreFragments = true ↔ offsetBits (raw ++ rest) % 2 = 1) := by
    generalize raw ++ rest = bytes at found
    unfold read? at found
    split at found
    next nextHeader reserved high low i1 i2 i3 i4 tail =>
      cases found
      have word := Wire.toNat_word high low
      have bound := (Wire.word high low).toNat_lt
      constructor
      · simp only [offsetBits, UInt16.toNat_mul, UInt16.toNat_div, UInt16.reduceToNat]
        omega
      · rw [decide_eq_true_eq, ← UInt16.toNat_inj]
        simp only [offsetBits, UInt16.toNat_mod, UInt16.reduceToNat]
        omega
    next => cases found
  refine ⟨?_, behind.symm, offset, moreFragments, aligned, ?_, ?_⟩
  · rw [first]
    exact stands.read
  · rw [first]
    exact stands.encode_eq
  · have zero : header.offset = 0 ↔ offsetBits (raw ++ rest) / 8 = 0 := by
      rw [← UInt16.toNat_inj, UInt16.toNat_zero]
      omega
    rw [isFragment, Bool.or_eq_false_iff, bne_eq_false_iff_eq, zero, ← Bool.not_eq_true,
      moreFragments]
    omega

/-! ## From headers to bytes -/

/-- The header with its offset rounded down to a multiple of eight. -/
def floored (header : FragmentHeader) : FragmentHeader :=
  { header with offset := header.offset / 8 * 8 }

theorem toNat_offset_floored (header : FragmentHeader) :
    header.floored.offset.toNat = header.offset.toNat / 8 * 8 := by
  have bound := header.offset.toNat_lt
  simp only [floored, UInt16.toNat_mul, UInt16.toNat_div, UInt16.reduceToNat]
  omega

theorem floored_of_aligned {header : FragmentHeader} (aligned : header.offset.toNat % 8 = 0) :
    header.floored = header := by
  have offset : header.offset / 8 * 8 = header.offset := by
    rw [← UInt16.toNat_inj]
    exact (toNat_offset_floored header).trans (by omega)
  rw [floored, offset]

/-- What is left of an offset beyond a multiple of eight is not written. -/
theorem encode_floored (header : FragmentHeader) : header.floored.encode = header.encode := by
  have word : offsetWord header.floored.offset header.moreFragments =
      offsetWord header.offset header.moreFragments := by
    rw [← UInt16.toNat_inj, toNat_offsetWord, toNat_offsetWord, toNat_offset_floored]
    omega
  rw [encode, encode, ← word]
  rfl

/-- **Nothing but the last bits of the offset is lost** where a header is written. -/
theorem read?_encode_floored (header : FragmentHeader) (rest : Bytes) :
    read? (header.encode ++ rest) = some (header.floored, rest) := by
  have aligned : header.floored.offset.toNat % 8 = 0 := by
    rw [toNat_offset_floored]
    omega
  rw [← encode_floored]
  exact read?_encode header.floored aligned rest

/-! ## Both ways -/

/-- **Reading and writing undo one another**, up to the reserved bits of the bytes and up to the
last bits of the offset. -/
theorem codes_up_to_reserved (bytes : Bytes) (header : FragmentHeader) :
    ((∃ found rest, read? bytes = some (found, rest)) ↔ 8 ≤ bytes.length) ∧
      (∀ found rest, read? bytes = some (found, rest) → Decodes bytes found rest) ∧
      (∀ rest, read? (header.encode ++ rest) = some (header.floored, rest)) ∧
      (header.offset.toNat % 8 = 0 → header.floored = header) :=
  ⟨exists_read?_iff, fun _ _ found => decodes_of_read? found, header.read?_encode_floored,
    floored_of_aligned⟩

/-- A header with all reserved bits set, in front of one more byte. It stands for a whole
datagram. -/
theorem codes_up_to_reserved_atomic :
    (∃ found rest, read? [17, 0xff, 0x00, 0x06, 0xde, 0xad, 0xbe, 0xef, 0x61] = some (found, rest) ∧
      found.isFragment = false ∧ rest = [0x61] ∧
      found.encode = [17, 0x00, 0x00, 0x00, 0xde, 0xad, 0xbe, 0xef]) ∧
    (⟨17, 1480, true, 7⟩ : FragmentHeader).offset.toNat % 8 = 0 ∧
      read? (⟨17, 1480, true, 7⟩ : FragmentHeader).encode = some (⟨17, 1480, true, 7⟩, []) := by
  have codes := codes_up_to_reserved [17, 0xff, 0x00, 0x06, 0xde, 0xad, 0xbe, 0xef, 0x61]
    ⟨17, 1480, true, 7⟩
  obtain ⟨long, decodes, written, kept⟩ := codes
  obtain ⟨found, rest, read⟩ := long.mpr (by decide)
  have decoded := decodes found rest read
  have whole : found.isFragment = false := decoded.whole.mpr (by decide)
  refine ⟨⟨found, rest, read, whole, decoded.rest, ?_⟩, by decide, ?_⟩
  · rw [decoded.encode]
    decide
  · have again := written []
    rw [List.append_nil, kept (by decide)] at again
    exact again

end FamilyGateway.FragmentHeader
