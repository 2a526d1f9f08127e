import FamilyGateway.Address.Basic

/-!
# The Internet checksum

A checksum is the complement of the ones' complement sum of a message read as
big-endian words. Sums are carried unfolded in thirty-two bits, so that partial
sums over different regions can be combined before the carries are folded in.

`fold` brings a sum into sixteen bits without changing its residue modulo 65535
and without turning a non-zero sum into zero; the two lemmas `fold_mod` and
`fold_eq_zero_iff` say so. Everything else is built on it: the header checksum of
an IPv4 packet, the pseudo-header of an upper-layer message, and the update of a
stored checksum when some of the summed words are replaced.
-/

set_option autoImplicit false

namespace FamilyGateway

/-- The two addresses of a pseudo-header belong to different families. -/
inductive ChecksumError where
  | familyMismatch
  deriving DecidableEq, Repr

/-- What is reported about a checksum that cannot be computed. -/
def ChecksumError.message : ChecksumError → String
  | familyMismatch => "pseudo-header addresses belong to different families"

namespace Checksum

/-! ## Sums of words -/

/-- Adds the big-endian words of `data` to a sum. An odd last byte is the high byte of a word
whose low byte is zero. -/
def addWords (sum : UInt32) : Bytes → UInt32
  | [] => sum
  | [last] => sum + (Wire.word last 0).toUInt32
  | first :: second :: rest => addWords (sum + (Wire.word first second).toUInt32) rest

/-- The sum of the big-endian words of `data`, carries unfolded. -/
def wordSum (data : Bytes) : UInt32 := addWords 0 data

/-! ## Folding -/

/-- Adds the carries of a sum back into its low sixteen bits, once. -/
def foldOnce (sum : UInt32) : UInt32 := sum % 65536 + sum / 65536

/-- Folds carries until none remain. Two rounds are enough: the first leaves at most 131070, and
the second at most 65535. -/
def fold (sum : UInt32) : UInt16 := (foldOnce (foldOnce sum)).toUInt16

/-- Adds two partial sums. Both are folded first, so the addition cannot overflow. -/
def combine (left right : UInt32) : UInt32 := (fold left).toUInt32 + (fold right).toUInt32

/-- The complement of the folded sum, which is what a checksum field stores. -/
def ofSum (sum : UInt32) : UInt16 := 65535 - fold sum

theorem toNat_foldOnce (sum : UInt32) :
    (foldOnce sum).toNat = sum.toNat % 65536 + sum.toNat / 65536 := by
  have bound := sum.toNat_lt
  simp only [foldOnce, UInt32.toNat_add, UInt32.toNat_mod, UInt32.toNat_div, UInt32.reduceToNat]
  omega

/-- The folded sum as a natural number: both rounds written out. -/
theorem toNat_fold (sum : UInt32) :
    (fold sum).toNat =
      (sum.toNat % 65536 + sum.toNat / 65536) % 65536 +
        (sum.toNat % 65536 + sum.toNat / 65536) / 65536 := by
  have bound := sum.toNat_lt
  simp only [fold, UInt32.toNat_toUInt16, toNat_foldOnce]
  omega

/-- Folding keeps the residue of a sum modulo 65535. -/
theorem fold_mod (sum : UInt32) : (fold sum).toNat % 65535 = sum.toNat % 65535 := by
  rw [toNat_fold]
  omega

/-- Only the empty sum folds to zero. -/
theorem fold_eq_zero_iff (sum : UInt32) : fold sum = 0 ↔ sum = 0 := by
  rw [← UInt16.toNat_inj, ← UInt32.toNat_inj, toNat_fold]
  have : (0 : UInt16).toNat = 0 := rfl
  have : (0 : UInt32).toNat = 0 := rfl
  omega

/-! ## Checksums -/

/-- The checksum of an IPv4 header whose checksum field counts as zero. The header length is read
from the low half of the first byte, in units of four bytes, and capped at the bytes given. -/
def ipv4Header (header : Bytes) : UInt16 :=
  match header with
  | [] => ofSum 0
  | first :: _ =>
    let covered := header.take ((first % 16).toNat * 4)
    if 12 ≤ covered.length then
      ofSum (combine (wordSum (covered.take 10)) (wordSum (covered.drop 12)))
    else
      ofSum (wordSum (covered.take 10))

/-- The sum of the words of an address. -/
def addressSum (address : Address) : UInt32 := wordSum address.octets

/-- The sum of two addresses' words. -/
def addressPairSum (source destination : Address) : UInt32 :=
  combine (addressSum source) (addressSum destination)

/-- The sum of the protocol number and of the two words of the upper-layer length. -/
def trailerSum (protocol : UInt8) (length : UInt32) : UInt32 :=
  protocol.toUInt32 + length / 65536 + length % 65536

/-- The sum of the pseudo-header of an upper-layer message. The length is summed as two words in
either family, which agrees with the one word of IPv4 below 64 KiB. -/
def pseudoHeaderSum (source destination : Address) (protocol : UInt8) (length : UInt32) :
    Except ChecksumError UInt32 :=
  if source.family = destination.family then
    .ok (combine (addressPairSum source destination) (trailerSum protocol length))
  else
    .error .familyMismatch

/-- A stored checksum after some words that summed to `before` were replaced by words that sum
to `after`. -/
def adjust (stored : UInt16) (before after : UInt32) : UInt16 :=
  ofSum ((65535 - stored).toUInt32 + (65535 - fold before).toUInt32 + (fold after).toUInt32)

/-- The checksum of an upper-layer message whose checksum field is zero. ICMP over IPv4, which is
protocol 1, is summed without a pseudo-header. -/
def upperLayer (source destination : Address) (protocol : UInt8) (message : Bytes) :
    Except ChecksumError UInt16 :=
  if protocol = 1 ∧ source.family = .inet then
    if destination.family = .inet then .ok (ofSum (wordSum message)) else .error .familyMismatch
  else do
    let pseudo ← pseudoHeaderSum source destination protocol (UInt32.ofNat message.length)
    .ok (ofSum (combine pseudo (wordSum message)))

end Checksum

end FamilyGateway
