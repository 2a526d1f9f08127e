import FamilyGateway.Text.Numeral
import Mathlib.Algebra.Group.Nat.Defs
import Mathlib.Data.List.TakeWhile

/-!
# Reading numerals in a text

A printed number is read back, with what follows it, wherever no further digit follows
(`Numeral.read?_digits`). What a reader takes is made of digits alone
(`Numeral.exists_of_read?`), and where no digit stands it takes nothing
(`Numeral.read?_of_stops`).
-/

set_option autoImplicit false

namespace FamilyGateway.Numeral

variable {base number : Nat} {text rest : List Char}

/-- No digit stands in front of a text. -/
def Stops (base : Nat) (text : List Char) : Prop :=
  ∀ character ∈ text.head?, isDigit base character = false

theorem isDigit_digitChar {digit : Nat} (small : digit < base) (limit : base ≤ 16) :
    isDigit base (digitChar digit) = true := by
  rw [isDigit, digitValue?_digitChar small limit, Option.isSome_some]

/-- A digit of a base is a digit of every greater one. -/
theorem isDigit_mono {greater : Nat} (le : base ≤ greater) {character : Char}
    (digit : isDigit base character = true) : isDigit greater character = true := by
  obtain ⟨value, read⟩ := Option.isSome_iff_exists.mp digit
  obtain ⟨symbol, small⟩ := Option.filter_eq_some_iff.mp read
  refine Option.isSome_iff_exists.mpr ⟨value, Option.filter_eq_some_iff.mpr ⟨symbol, ?_⟩⟩
  simp only [decide_eq_true_eq] at small ⊢
  omega

/-- A printed number is made of digits. -/
theorem isDigit_of_mem_digits (two : 2 ≤ base) (limit : base ≤ 16) :
    ∀ character ∈ digits base number, isDigit base character = true := by
  induction number using Nat.strongRecOn with
  | ind number ih =>
      unfold digits
      split
      · next small =>
          simp only [List.mem_singleton, forall_eq]
          exact isDigit_digitChar (by omega) limit
      · next large =>
          simp only [List.mem_append, List.mem_singleton]
          rintro character (earlier | rfl)
          · exact ih _ (Nat.div_lt_self (by omega) (by omega)) character earlier
          · exact isDigit_digitChar (Nat.mod_lt _ (by omega)) limit

/-- A number below a power of the base has no more digits than its exponent says. -/
theorem length_digits_le {count : Nat} (some : 0 < count)
    (small : number < base ^ count) : (digits base number).length ≤ count := by
  induction count generalizing number with
  | zero => exact absurd some (Nat.lt_irrefl 0)
  | succ count ih =>
      unfold digits
      split
      · exact Nat.succ_le_succ (Nat.zero_le count)
      · next large =>
          have quotient : number / base < base ^ count :=
            Nat.div_lt_of_lt_mul (by rwa [Nat.pow_succ, Nat.mul_comm] at small)
          have several : 0 < count := by
            refine Nat.pos_of_ne_zero fun none => large (.inr ?_)
            rwa [none, Nat.pow_one] at small
          rw [List.length_append, List.length_singleton]
          exact Nat.succ_le_succ (ih several quotient)

/-- A number of several digits does not start with a zero. -/
theorem length_digits_of_head (two : 2 ≤ base) (limit : base ≤ 16)
    (zero : (digits base number).head? = some '0') : (digits base number).length = 1 := by
  rw [(head_digits two limit number).mp zero, digits, if_pos (.inr (by omega))]
  rfl

theorem takeWhile_of_stops (stops : Stops base text) : text.takeWhile (isDigit base) = [] := by
  cases text with
  | nil => rfl
  | cons character text => exact List.takeWhile_cons_of_neg (by simp [stops character rfl])

theorem dropWhile_of_stops (stops : Stops base text) : text.dropWhile (isDigit base) = text := by
  cases text with
  | nil => rfl
  | cons character text => exact List.dropWhile_cons_of_neg (by simp [stops character rfl])

/-- A printed number that the form allows is read back. -/
theorem read?_digits (form : Form) (two : 2 ≤ form.base) (limit : form.base ≤ 16)
    (short : (digits form.base number).length ≤ form.maxDigits) (small : number ≤ form.maxValue)
    (stops : Stops form.base rest) :
    read? form (digits form.base number ++ rest) = some (number, rest) := by
  have made : ∀ character ∈ digits form.base number, isDigit form.base character = true :=
    isDigit_of_mem_digits two limit
  simp only [read?, List.takeWhile_append_of_pos made, takeWhile_of_stops stops, List.append_nil,
    List.dropWhile_append_of_pos made, dropWhile_of_stops stops, value_digits two limit]
  refine if_neg ?_
  rintro (none | long | great | ⟨⟨zero, several⟩, -⟩)
  · exact digits_ne_nil _ _ none
  · omega
  · omega
  · rw [length_digits_of_head two limit zero] at several
    omega

theorem read?_of_stops (form : Form) (stops : Stops form.base text) : read? form text = none :=
  if_pos (.inl (takeWhile_of_stops stops))

/-- What is read as a numeral is made of digits, and no digit follows it. -/
theorem exists_of_read? {form : Form} (read : read? form text = some (number, rest)) :
    rest = text.dropWhile (isDigit form.base) ∧ ∃ numeral, text = numeral ++ rest ∧
      ∀ character ∈ numeral, isDigit form.base character = true := by
  simp only [read?] at read
  split at read
  · cases read
  · cases read
    exact ⟨rfl, text.takeWhile (isDigit form.base), List.takeWhile_append_dropWhile.symm,
      fun character member => List.mem_takeWhile_imp member⟩

end FamilyGateway.Numeral
