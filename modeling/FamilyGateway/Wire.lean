/-!
# Big-endian fields

Packets are lists of bytes in the order in which they are sent, and every
multi-byte field of a network header is written most significant byte first.
This module reads and writes the two field widths that occur, sixteen and
thirty-two bits, and says that reading undoes writing (`word_high_low`,
`long_bytes32`) and that writing undoes reading (`high_word`, `low_word`).
-/

set_option autoImplicit false

namespace FamilyGateway

/-- Bytes in the order in which they are sent. -/
abbrev Bytes := List UInt8

namespace Wire

/-! ## Sixteen bits -/

/-- The number that two bytes spell, the first one being the more significant. -/
def word (first second : UInt8) : UInt16 :=
  UInt16.ofNat (first.toNat * 256 + second.toNat)

/-- The more significant byte of a word. -/
def high (value : UInt16) : UInt8 := UInt8.ofNat (value.toNat / 256)

/-- The less significant byte of a word. -/
def low (value : UInt16) : UInt8 := UInt8.ofNat value.toNat

/-- A word as it is sent. -/
def bytes16 (value : UInt16) : Bytes := [high value, low value]

@[simp] theorem length_bytes16 (value : UInt16) : (bytes16 value).length = 2 := rfl

theorem toNat_word (first second : UInt8) :
    (word first second).toNat = first.toNat * 256 + second.toNat := by
  have boundFirst := first.toNat_lt
  have boundSecond := second.toNat_lt
  simp only [word, UInt16.toNat_ofNat']
  omega

theorem toNat_high (value : UInt16) : (high value).toNat = value.toNat / 256 := by
  have bound := value.toNat_lt
  simp only [high, UInt8.toNat_ofNat']
  omega

theorem toNat_low (value : UInt16) : (low value).toNat = value.toNat % 256 := by
  simp only [low, UInt8.toNat_ofNat', Nat.reducePow]

/-- Reading the two bytes of a word gives the word back. -/
@[simp] theorem word_high_low (value : UInt16) : word (high value) (low value) = value := by
  apply UInt16.toNat_inj.mp
  rw [toNat_word, toNat_high, toNat_low]
  omega

@[simp] theorem high_word (first second : UInt8) : high (word first second) = first := by
  have boundSecond := second.toNat_lt
  apply UInt8.toNat_inj.mp
  rw [toNat_high, toNat_word]
  omega

@[simp] theorem low_word (first second : UInt8) : low (word first second) = second := by
  have boundSecond := second.toNat_lt
  apply UInt8.toNat_inj.mp
  rw [toNat_low, toNat_word]
  omega

/-! ## Thirty-two bits -/

/-- The number that four bytes spell, the first one being the most significant. -/
def long (first second third fourth : UInt8) : UInt32 :=
  UInt32.ofNat ((word first second).toNat * 65536 + (word third fourth).toNat)

/-- The more significant half of a thirty-two bit number. -/
def upper (value : UInt32) : UInt16 := UInt16.ofNat (value.toNat / 65536)

/-- The less significant half of a thirty-two bit number. -/
def lower (value : UInt32) : UInt16 := UInt16.ofNat value.toNat

/-- A thirty-two bit number as it is sent. -/
def bytes32 (value : UInt32) : Bytes := bytes16 (upper value) ++ bytes16 (lower value)

@[simp] theorem length_bytes32 (value : UInt32) : (bytes32 value).length = 4 := rfl

theorem toNat_upper (value : UInt32) : (upper value).toNat = value.toNat / 65536 := by
  have bound := value.toNat_lt
  simp only [upper, UInt16.toNat_ofNat']
  omega

theorem toNat_lower (value : UInt32) : (lower value).toNat = value.toNat % 65536 := by
  simp only [lower, UInt16.toNat_ofNat', Nat.reducePow]

theorem toNat_long (first second third fourth : UInt8) :
    (long first second third fourth).toNat =
      (word first second).toNat * 65536 + (word third fourth).toNat := by
  have boundUpper := (word first second).toNat_lt
  have boundLower := (word third fourth).toNat_lt
  simp only [long, UInt32.toNat_ofNat']
  omega

/-- Reading the four bytes of a number gives the number back. -/
@[simp] theorem long_bytes32 (value : UInt32) :
    long (high (upper value)) (low (upper value)) (high (lower value)) (low (lower value)) =
      value := by
  apply UInt32.toNat_inj.mp
  rw [toNat_long, word_high_low, word_high_low, toNat_upper, toNat_lower]
  omega

@[simp] theorem upper_long (first second third fourth : UInt8) :
    upper (long first second third fourth) = word first second := by
  have boundLower := (word third fourth).toNat_lt
  apply UInt16.toNat_inj.mp
  rw [toNat_upper, toNat_long]
  omega

@[simp] theorem lower_long (first second third fourth : UInt8) :
    lower (long first second third fourth) = word third fourth := by
  have boundLower := (word third fourth).toNat_lt
  apply UInt16.toNat_inj.mp
  rw [toNat_lower, toNat_long]
  omega

end Wire

end FamilyGateway
