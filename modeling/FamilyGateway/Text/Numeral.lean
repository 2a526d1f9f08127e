/-!
# Numerals

Natural numbers in a base up to sixteen, printed without leading zeros and with
lower-case letters, and read back greedily: a reader takes every digit in front of
it and then accepts or refuses the whole numeral. Reading what was printed gives
the number back (`value_digits`), and a printed numeral starts with a zero only if
it is the numeral of zero (`head_digits`).
-/

set_option autoImplicit false

namespace FamilyGateway.Numeral

/-- The character of a digit below sixteen. -/
def digitChar (digit : Nat) : Char :=
  if digit < 10 then Char.ofNat ('0'.toNat + digit) else Char.ofNat ('a'.toNat + (digit - 10))

/-- The value of a digit or a letter; letters of either case stand for ten and above. -/
def symbolValue? (character : Char) : Option Nat :=
  if '0' ≤ character ∧ character ≤ '9' then some (character.toNat - '0'.toNat)
  else if 'a' ≤ character ∧ character ≤ 'z' then some (character.toNat - 'a'.toNat + 10)
  else if 'A' ≤ character ∧ character ≤ 'Z' then some (character.toNat - 'A'.toNat + 10)
  else none

/-- The value of a digit character in a base. -/
def digitValue? (base : Nat) (character : Char) : Option Nat :=
  (symbolValue? character).filter fun value => value < base

/-- Whether a character is a digit of the base. -/
def isDigit (base : Nat) (character : Char) : Bool := (digitValue? base character).isSome

/-- The digits of a number in a base of at least two, most significant first. -/
def digits (base number : Nat) : List Char :=
  if base < 2 ∨ number < base then [digitChar number]
  else digits base (number / base) ++ [digitChar (number % base)]
termination_by number
decreasing_by
  exact Nat.div_lt_self (by omega) (by omega)

/-- The number that a string of digits spells. -/
def value (base : Nat) (numeral : List Char) : Nat :=
  numeral.foldl (fun sum character => sum * base + (digitValue? base character).getD 0) 0

/-! ## Reading what was printed -/

theorem symbolValue?_digitChar {digit : Nat} (small : digit < 16) :
    symbolValue? (digitChar digit) = some digit := by
  revert digit
  decide

theorem digitValue?_digitChar {base digit : Nat} (small : digit < base) (limit : base ≤ 16) :
    digitValue? base (digitChar digit) = some digit := by
  simp [digitValue?, symbolValue?_digitChar (Nat.lt_of_lt_of_le small limit), small]

theorem value_append_digit (base : Nat) (numeral : List Char) (character : Char) :
    value base (numeral ++ [character]) =
      value base numeral * base + (digitValue? base character).getD 0 := by
  simp [value]

/-- A printed number reads as itself. -/
theorem value_digits {base : Nat} (two : 2 ≤ base) (limit : base ≤ 16) (number : Nat) :
    value base (digits base number) = number := by
  induction number using Nat.strongRecOn with
  | ind number ih =>
    unfold digits
    split
    · next small =>
      have below : number < base := by omega
      simp [value, digitValue?_digitChar below limit]
    · next large =>
      rw [value_append_digit, ih (number / base) (Nat.div_lt_self (by omega) (by omega)),
        digitValue?_digitChar (Nat.mod_lt number (by omega)) limit, Option.getD_some,
        Nat.div_add_mod']

theorem digits_ne_nil (base number : Nat) : digits base number ≠ [] := by
  unfold digits
  split <;> simp

/-- A printed number starts with a zero only if it is zero. -/
theorem head_digits {base : Nat} (two : 2 ≤ base) (limit : base ≤ 16) (number : Nat) :
    (digits base number).head? = some '0' ↔ number = 0 := by
  induction number using Nat.strongRecOn with
  | ind number ih =>
    unfold digits
    split
    · next small =>
      have below : number < 16 := by omega
      have only : ∀ digit < 16, digitChar digit = '0' ↔ digit = 0 := by decide
      simp [only number below]
    · next large =>
      have quotient : number / base ≠ 0 := by
        have := Nat.div_pos (show base ≤ number by omega) (show 0 < base by omega)
        omega
      have leading : (digits base (number / base) ++ [digitChar (number % base)]).head? =
          (digits base (number / base)).head? := by
        cases shape : digits base (number / base) with
        | nil => exact absurd shape (digits_ne_nil base _)
        | cons first rest => rfl
      rw [leading, ih (number / base) (Nat.div_lt_self (by omega) (by omega))]
      omega

/-! ## Numerals in a text -/

/-- The form that a numeral must have to be accepted. -/
structure Form where
  /-- Base of the digits. -/
  base : Nat
  /-- Greatest number of digits. -/
  maxDigits : Nat
  /-- Greatest value. -/
  maxValue : Nat
  /-- Whether a numeral of several digits may start with a zero. -/
  leadingZeros : Bool

/-- Reads the longest run of digits as a numeral of the given form, and returns what follows it. -/
def read? (form : Form) (text : List Char) : Option (Nat × List Char) :=
  let numeral := text.takeWhile (isDigit form.base)
  let padded := numeral.head? = some '0' ∧ 1 < numeral.length
  if numeral = [] ∨ form.maxDigits < numeral.length ∨ form.maxValue < value form.base numeral ∨
      (padded ∧ form.leadingZeros = false) then
    none
  else
    some (value form.base numeral, text.dropWhile (isDigit form.base))

end FamilyGateway.Numeral
