import FamilyGateway.Text.Numeral
import FamilyGateway.Wire

/-!
# Bytes in hexadecimal

Every byte is written as two lower-case hexadecimal digits, the more significant one
first, and read from two digits of either case. Reading what was written gives the
bytes back (`read?_chars`).
-/

set_option autoImplicit false

namespace FamilyGateway.Text.Hex

/-- A byte as two digits. -/
def byteChars (byte : UInt8) : List Char :=
  [Numeral.digitChar (byte.toNat / 16), Numeral.digitChar (byte.toNat % 16)]

/-- Some bytes, two digits each. -/
def chars (bytes : Bytes) : List Char := bytes.flatMap byteChars

/-- Some bytes as text. -/
def text (bytes : Bytes) : String := String.ofList (chars bytes)

/-- The byte that two digits spell. -/
def byte? (first second : Char) : Option UInt8 := do
  let high ← Numeral.digitValue? 16 first
  let low ← Numeral.digitValue? 16 second
  some (UInt8.ofNat (high * 16 + low))

/-- The bytes that a whole text spells. -/
def read? : List Char → Option Bytes
  | [] => some []
  | [_] => none
  | first :: second :: rest => do
    let byte ← byte? first second
    let bytes ← read? rest
    some (byte :: bytes)

theorem byte?_byteChars (byte : UInt8) :
    byte? (Numeral.digitChar (byte.toNat / 16)) (Numeral.digitChar (byte.toNat % 16)) =
      some byte := by
  have bound := byte.toNat_lt
  have spelled : byte.toNat / 16 * 16 + byte.toNat % 16 = byte.toNat := Nat.div_add_mod' _ _
  rw [byte?, Numeral.digitValue?_digitChar (show byte.toNat / 16 < 16 by omega) (by decide),
    Numeral.digitValue?_digitChar (show byte.toNat % 16 < 16 by omega) (by decide)]
  simp only [Option.bind_eq_bind, Option.bind_some, spelled, UInt8.ofNat_toNat]

/-- Reading what was written gives the bytes back. -/
@[simp] theorem read?_chars (bytes : Bytes) : read? (chars bytes) = some bytes := by
  induction bytes with
  | nil => rfl
  | cons byte rest ih =>
    have step : chars (byte :: rest) =
        Numeral.digitChar (byte.toNat / 16) :: Numeral.digitChar (byte.toNat % 16) ::
          chars rest := rfl
    rw [step, read?, byte?_byteChars, ih]
    rfl

end FamilyGateway.Text.Hex
