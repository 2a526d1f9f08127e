import FamilyGateway.Checksum

/-!
# Sums modulo 65535

A ones' complement sum is a natural number of which only the residue modulo 65535
matters, except that the sum of nothing but zeros stays apart from the other
multiples of 65535. The sum of the words of a message as a natural number is
`total`; the carried sum agrees with it as long as no carry leaves the thirty-two
bits (`toNat_wordSum`), and it is additive over parts of even length
(`total_append`).

Each operation on sums is given by its residue: combining adds, and updating a
checksum moves it by the difference of the two sums (`adjust_mod`). A sum folds to
all ones exactly if it is a non-zero multiple of 65535 (`fold_eq_max_iff`). An update
can be taken back, except that 0xffff comes back as the other form of zero
(`adjust_adjust`).
-/

set_option autoImplicit false

namespace FamilyGateway.Checksum

/-! ## The sum of the words of a message -/

/-- The sum of the big-endian words of some bytes. An odd last byte is the high byte of a word
whose low byte is zero. -/
def total : Bytes → Nat
  | [] => 0
  | [last] => last.toNat * 256
  | first :: second :: rest => first.toNat * 256 + second.toNat + total rest

theorem total_le (data : Bytes) : total data ≤ 65535 * ((data.length + 1) / 2) := by
  fun_induction total data with
  | case1 => exact Nat.le_refl _
  | case2 last =>
      have bound := last.toNat_lt
      simp only [List.length_singleton]
      omega
  | case3 first second rest ih =>
      have boundFirst := first.toNat_lt
      have boundSecond := second.toNat_lt
      simp only [List.length_cons]
      omega

theorem toNat_addWords (sum : UInt32) (data : Bytes)
    (fits : sum.toNat + total data < 4294967296) :
    (addWords sum data).toNat = sum.toNat + total data := by
  fun_induction addWords sum data with
  | case1 sum => simp only [total, Nat.add_zero]
  | case2 sum last =>
      simp only [total] at fits ⊢
      simp only [UInt32.toNat_add, UInt16.toNat_toUInt32, Wire.toNat_word, UInt8.toNat_zero,
        Nat.add_zero]
      omega
  | case3 sum first second rest ih =>
      simp only [total] at fits ⊢
      have step : (sum + (Wire.word first second).toUInt32).toNat =
          sum.toNat + (first.toNat * 256 + second.toNat) := by
        simp only [UInt32.toNat_add, UInt16.toNat_toUInt32, Wire.toNat_word]
        omega
      rw [ih (by omega), step]
      omega

/-- The carried sum of a message is its sum. The bound is the largest number of bytes for which
no carry can be lost. -/
theorem toNat_wordSum (data : Bytes) (short : data.length ≤ 131074) :
    (wordSum data).toNat = total data := by
  have bound := total_le data
  have fits : (0 : UInt32).toNat + total data < 4294967296 := by
    simp only [UInt32.toNat_zero]
    omega
  rw [wordSum, toNat_addWords 0 data fits, UInt32.toNat_zero, Nat.zero_add]

/-- Words do not straddle a cut at an even position. -/
theorem total_append (left right : Bytes) (even : left.length % 2 = 0) :
    total (left ++ right) = total left + total right := by
  fun_induction total left with
  | case1 => simp only [List.nil_append, Nat.zero_add]
  | case2 last => simp at even
  | case3 first second rest ih =>
      simp only [List.length_cons] at even
      simp only [List.cons_append, total]
      rw [ih (by omega)]
      omega

theorem total_bytes16 (value : UInt16) : total (Wire.bytes16 value) = value.toNat := by
  have bound := value.toNat_lt
  simp only [Wire.bytes16, total, Wire.toNat_high, Wire.toNat_low]
  omega

theorem total_bytes32 (value : UInt32) :
    total (Wire.bytes32 value) = value.toNat / 65536 + value.toNat % 65536 := by
  have even : (Wire.bytes16 (Wire.upper value)).length % 2 = 0 := by
    rw [Wire.length_bytes16]
  rw [Wire.bytes32, total_append _ _ even, total_bytes16, total_bytes16, Wire.toNat_upper,
    Wire.toNat_lower]

theorem total_bytes32_eq_zero_iff (value : UInt32) :
    total (Wire.bytes32 value) = 0 ↔ value = 0 := by
  rw [total_bytes32, ← UInt32.toNat_inj, UInt32.toNat_zero]
  omega

/-- Only zeros sum to zero. -/
theorem total_eq_zero_iff (data : Bytes) : total data = 0 ↔ ∀ byte ∈ data, byte = 0 := by
  fun_induction total data with
  | case1 => simp
  | case2 last =>
      simp only [List.mem_singleton, forall_eq]
      rw [← UInt8.toNat_inj, UInt8.toNat_zero]
      omega
  | case3 first second rest ih =>
      simp only [List.mem_cons, forall_eq_or_imp]
      rw [← ih, ← UInt8.toNat_inj, ← UInt8.toNat_inj, UInt8.toNat_zero]
      omega

/-! ## Folding and combining -/

/-- Exactly the non-zero multiples of 65535 fold to all ones. -/
theorem fold_eq_max_iff (sum : UInt32) :
    fold sum = 0xffff ↔ sum.toNat ≠ 0 ∧ sum.toNat % 65535 = 0 := by
  have bound := sum.toNat_lt
  rw [← UInt16.toNat_inj, toNat_fold, show (0xffff : UInt16).toNat = 65535 from rfl]
  omega

theorem toNat_combine (left right : UInt32) :
    (combine left right).toNat = (fold left).toNat + (fold right).toNat := by
  have boundLeft := (fold left).toNat_lt
  have boundRight := (fold right).toNat_lt
  simp only [combine, UInt32.toNat_add, UInt16.toNat_toUInt32]
  omega

theorem combine_mod (left right : UInt32) :
    (combine left right).toNat % 65535 = (left.toNat + right.toNat) % 65535 := by
  have residueLeft := fold_mod left
  have residueRight := fold_mod right
  rw [toNat_combine]
  omega

theorem toNat_fold_eq_zero_iff (sum : UInt32) : (fold sum).toNat = 0 ↔ sum.toNat = 0 := by
  rw [toNat_fold]
  omega

/-- Combining loses no non-zero sum. -/
theorem combine_eq_zero_iff (left right : UInt32) :
    (combine left right).toNat = 0 ↔ left.toNat = 0 ∧ right.toNat = 0 := by
  have zeroLeft := toNat_fold_eq_zero_iff left
  have zeroRight := toNat_fold_eq_zero_iff right
  rw [toNat_combine]
  omega

/-! ## Updating a checksum -/

theorem toNat_complement (value : UInt16) : (65535 - value).toNat = 65535 - value.toNat := by
  have bound := value.toNat_lt
  have small : value ≤ 65535 := by
    rw [UInt16.le_iff_toNat_le]
    show value.toNat ≤ 65535
    omega
  rw [UInt16.toNat_sub_of_le _ _ small]
  rfl

theorem toNat_ofSum (sum : UInt32) : (ofSum sum).toNat = 65535 - (fold sum).toNat :=
  toNat_complement (fold sum)

/-- The sum that is folded when a checksum is updated. -/
def adjustedSum (stored : UInt16) (before after : UInt32) : UInt32 :=
  (65535 - stored).toUInt32 + (65535 - fold before).toUInt32 + (fold after).toUInt32

theorem toNat_adjustedSum (stored : UInt16) (before after : UInt32) :
    (adjustedSum stored before after).toNat =
      (65535 - stored.toNat) + (65535 - (fold before).toNat) + (fold after).toNat := by
  have boundAfter := (fold after).toNat_lt
  simp only [adjustedSum, UInt32.toNat_add, UInt16.toNat_toUInt32, toNat_complement]
  omega

/-- An updated checksum makes up for the difference between the two sums. -/
theorem adjust_mod (stored : UInt16) (before after : UInt32) :
    ((adjust stored before after).toNat + after.toNat) % 65535 =
      (stored.toNat + before.toNat) % 65535 := by
  have boundStored := stored.toNat_lt
  have boundBefore := (fold before).toNat_lt
  have residueBefore := fold_mod before
  have residueAfter := fold_mod after
  have residueSum := fold_mod (adjustedSum stored before after)
  have boundSum := (fold (adjustedSum stored before after)).toNat_lt
  rw [toNat_adjustedSum] at residueSum
  have value : (adjust stored before after).toNat =
      65535 - (fold (adjustedSum stored before after)).toNat := toNat_ofSum _
  omega

/-- An updated checksum is zero exactly if the sum that is folded for it folds to all ones. -/
theorem adjust_eq_zero_iff (stored : UInt16) (before after : UInt32) :
    adjust stored before after = 0 ↔ fold (adjustedSum stored before after) = 0xffff := by
  have boundSum := (fold (adjustedSum stored before after)).toNat_lt
  have value : (adjust stored before after).toNat =
      65535 - (fold (adjustedSum stored before after)).toNat := toNat_ofSum _
  rw [← UInt16.toNat_inj, ← UInt16.toNat_inj, value]
  show 65535 - _ = 0 ↔ _ = 65535
  omega

/-- When the words that enter are zero, an updated checksum is zero if the words that were summed
before made up a non-zero sum with it that was a multiple of 65535, unless both had the form
0xffff. -/
theorem adjust_zero_eq_zero_iff (stored : UInt16) (before : UInt32) :
    adjust stored before 0 = 0 ↔
      (stored.toNat + before.toNat) % 65535 = 0 ∧
        ¬ (stored = 0xffff ∧ fold before = 0xffff) := by
  have boundStored := stored.toNat_lt
  have boundBefore := (fold before).toNat_lt
  have residue := fold_mod before
  have folded : (fold 0).toNat = 0 := rfl
  rw [adjust_eq_zero_iff, fold_eq_max_iff, toNat_adjustedSum, folded, ← UInt16.toNat_inj,
    ← UInt16.toNat_inj]
  show _ ↔ _ ∧ ¬ (_ = 65535 ∧ _ = 65535)
  omega

/-- An updated checksum is 0xffff only if nothing is summed for it. -/
theorem adjust_eq_max_iff (stored : UInt16) (before after : UInt32) :
    adjust stored before after = 0xffff ↔
      stored = 0xffff ∧ fold before = 0xffff ∧ fold after = 0 := by
  have boundStored := stored.toNat_lt
  have boundBefore := (fold before).toNat_lt
  have boundSum := (fold (adjustedSum stored before after)).toNat_lt
  have empty := toNat_fold_eq_zero_iff (adjustedSum stored before after)
  have value : (adjust stored before after).toNat =
      65535 - (fold (adjustedSum stored before after)).toNat := toNat_ofSum _
  rw [toNat_adjustedSum] at empty
  rw [← UInt16.toNat_inj, ← UInt16.toNat_inj, ← UInt16.toNat_inj, ← UInt16.toNat_inj, value]
  show 65535 - _ = 65535 ↔ _ = 65535 ∧ _ = 65535 ∧ _ = 0
  omega

/-- An update that is taken back leaves the stored checksum, in the form 0 if it is a zero. -/
theorem adjust_adjust (stored : UInt16) (before after : UInt32) :
    adjust (adjust stored before after) after before =
      if stored = 0xffff then 0 else stored := by
  have boundStored := stored.toNat_lt
  have boundBack := (adjust (adjust stored before after) after before).toNat_lt
  have forth := adjust_mod stored before after
  have back := adjust_mod (adjust stored before after) after before
  -- Both updates would have to sum nothing, and they disagree about what is nothing.
  have notFull : adjust (adjust stored before after) after before ≠ 0xffff := by
    intro full
    obtain ⟨first, -, empty⟩ := (adjust_eq_max_iff _ _ _).mp full
    rw [((adjust_eq_max_iff _ _ _).mp first).2.1] at empty
    cases empty
  rw [ne_eq, ← UInt16.toNat_inj] at notFull
  change _ ≠ 65535 at notFull
  rw [← UInt16.toNat_inj]
  split
  next full =>
    have stored : stored.toNat = 65535 := congrArg UInt16.toNat full
    change _ = 0
    omega
  next other =>
    rw [← UInt16.toNat_inj] at other
    change _ ≠ 65535 at other
    omega

end FamilyGateway.Checksum
