import FamilyGateway.Proofs.Checksum.Residue

/-!
# Every carry is counted

Over natural numbers there is room for every carry. What a sum comes to there when its
carries are brought in round after round is `endAround`. A round keeps the residue modulo
65535 and leaves zero only of zero, so all rounds together do, and these two facts settle
the result (`endAround_congr`). So it does not matter in which order and in which groups
the words of a message are summed up, not even for the two forms of zero.

The sums of the gateway are kept in thirty-two bits, where an addition that does not fit
wraps around in silence. `Checked` does the same additions one by one and gives up at the
first one that does not fit, and it folds for as long as there are carries. It never gives
up where the sums are used, and then has the same answers (`Checked.fold_eq`,
`Checked.wordSum_eq`, `Checked.combine_eq`, `Checked.adjust_eq`): folding ends, and no
carry is lost. Then partial sums compose to what the whole sum folds to
(`partial_sums_compose`).
-/

set_option autoImplicit false

namespace FamilyGateway.Checksum

/-! ## Carries over natural numbers -/

/-- One round of carries: what is above the low sixteen bits of a sum is added to them. -/
def carryIn (sum : Nat) : Nat := sum % 65536 + sum / 65536

theorem carryIn_lt {sum : Nat} (carries : ¬ sum < 65536) : carryIn sum < sum := by
  rw [carryIn]
  omega

theorem carryIn_mod (sum : Nat) : carryIn sum % 65535 = sum % 65535 := by
  rw [carryIn]
  omega

theorem carryIn_eq_zero_iff (sum : Nat) : carryIn sum = 0 ↔ sum = 0 := by
  rw [carryIn]
  omega

/-- What a sum comes to after as many rounds as there are carries for. -/
def endAround (sum : Nat) : Nat :=
  if sum < 65536 then sum else endAround (carryIn sum)
termination_by sum
decreasing_by exact carryIn_lt ‹_›

theorem endAround_of_lt {sum : Nat} (small : sum < 65536) : endAround sum = sum := by
  rw [endAround, if_pos small]

theorem endAround_carryIn {sum : Nat} (carries : ¬ sum < 65536) :
    endAround (carryIn sum) = endAround sum := by
  rw [endAround.eq_def sum, if_neg carries]

theorem endAround_le (sum : Nat) : endAround sum ≤ 65535 := by
  fun_induction endAround sum with
  | case1 sum small => exact Nat.le_of_lt_succ small
  | case2 sum carries ih => exact ih

theorem endAround_mod (sum : Nat) : endAround sum % 65535 = sum % 65535 := by
  fun_induction endAround sum with
  | case1 sum small => rfl
  | case2 sum carries ih => exact ih.trans (carryIn_mod sum)

theorem endAround_eq_zero_iff (sum : Nat) : endAround sum = 0 ↔ sum = 0 := by
  fun_induction endAround sum with
  | case1 sum small => exact Iff.rfl
  | case2 sum carries ih => exact ih.trans (carryIn_eq_zero_iff sum)

/-- **Residue and zero settle what a sum comes to.** -/
theorem endAround_congr {left right : Nat} (residue : left % 65535 = right % 65535)
    (zero : left = 0 ↔ right = 0) : endAround left = endAround right := by
  have boundLeft := endAround_le left
  have boundRight := endAround_le right
  have residueLeft := endAround_mod left
  have residueRight := endAround_mod right
  have zeroLeft := endAround_eq_zero_iff left
  have zeroRight := endAround_eq_zero_iff right
  omega

/-- Parts of a sum may be exchanged for others that come to the same. -/
theorem endAround_add {first second third fourth : Nat}
    (left : endAround first = endAround second) (right : endAround third = endAround fourth) :
    endAround (first + third) = endAround (second + fourth) := by
  have residueFirst := endAround_mod first
  have residueSecond := endAround_mod second
  have residueThird := endAround_mod third
  have residueFourth := endAround_mod fourth
  refine endAround_congr (by omega) ?_
  rw [Nat.add_eq_zero_iff, Nat.add_eq_zero_iff, ← endAround_eq_zero_iff first, left,
    endAround_eq_zero_iff, ← endAround_eq_zero_iff third, right, endAround_eq_zero_iff]

/-- The checksum of a message whose words add up to a sum. -/
def ofTotal (sum : Nat) : UInt16 := UInt16.ofNat (65535 - endAround sum)

theorem toNat_ofTotal (sum : Nat) : (ofTotal sum).toNat = 65535 - endAround sum :=
  UInt16.toNat_ofNat_of_lt' (Nat.lt_succ_of_le (Nat.sub_le _ _))

/-- Sums that come to the same have one checksum. -/
theorem ofTotal_congr {left right : Nat} (same : endAround left = endAround right) :
    ofTotal left = ofTotal right := by
  rw [ofTotal, same, ofTotal]

/-- A sum comes to all ones with its checksum. -/
theorem endAround_add_ofTotal (sum : Nat) : endAround (sum + (ofTotal sum).toNat) = 65535 := by
  have bound := endAround_le sum
  have residue := endAround_mod sum
  have zero := endAround_eq_zero_iff sum
  have boundBoth := endAround_le (sum + (ofTotal sum).toNat)
  have residueBoth := endAround_mod (sum + (ofTotal sum).toNat)
  have zeroBoth := endAround_eq_zero_iff (sum + (ofTotal sum).toNat)
  rw [toNat_ofTotal] at *
  omega

/-! ## Folding -/

/-- A sum folds to what it comes to. -/
theorem toNat_fold_eq_endAround (sum : UInt32) : (fold sum).toNat = endAround sum.toNat := by
  rw [← endAround_of_lt (fold sum).toNat_lt]
  exact endAround_congr (fold_mod sum) (toNat_fold_eq_zero_iff sum)

/-- Sums with one outcome fold to one value. -/
theorem fold_eq_of_endAround {left right : UInt32}
    (same : endAround left.toNat = endAround right.toNat) : fold left = fold right := by
  rw [← UInt16.toNat_inj, toNat_fold_eq_endAround, toNat_fold_eq_endAround, same]

theorem ofSum_eq_ofTotal (sum : UInt32) : ofSum sum = ofTotal sum.toNat := by
  rw [← UInt16.toNat_inj, toNat_ofSum, toNat_ofTotal, toNat_fold_eq_endAround]

/-- Combined sums come to what both sums together come to. -/
theorem endAround_combine (left right : UInt32) :
    endAround (combine left right).toNat = endAround (left.toNat + right.toNat) := by
  refine endAround_congr (combine_mod left right) ?_
  rw [combine_eq_zero_iff, Nat.add_eq_zero_iff]

/-- The checksum of combined sums is the one of both sums together. -/
theorem ofSum_combine (left right : UInt32) :
    ofSum (combine left right) = ofTotal (left.toNat + right.toNat) := by
  rw [ofSum_eq_ofTotal]
  exact ofTotal_congr (endAround_combine left right)

/-- A message that is cut between two words folds to what its parts fold to together. -/
theorem fold_wordSum_append {front back : Bytes} (even : front.length % 2 = 0)
    (short : (front ++ back).length ≤ 131074) :
    fold (wordSum (front ++ back)) = fold (combine (wordSum front) (wordSum back)) := by
  have lengths : (front ++ back).length = front.length + back.length := List.length_append
  apply fold_eq_of_endAround
  rw [endAround_combine, toNat_wordSum _ short, total_append front back even,
    toNat_wordSum front (by omega), toNat_wordSum back (by omega)]

/-- A checksum is updated to the checksum of the words that are there afterwards. If these are all
zero, it comes out in the other form of zero. -/
theorem adjust_ofTotal (rest before after : UInt32) :
    adjust (ofTotal (rest.toNat + before.toNat)) before after =
      if rest.toNat + after.toNat = 0 then 0 else ofTotal (rest.toNat + after.toNat) := by
  have stored := toNat_ofTotal (rest.toNat + before.toNat)
  have boundStored := endAround_le (rest.toNat + before.toNat)
  have residueStored := endAround_mod (rest.toNat + before.toNat)
  have zeroStored := endAround_eq_zero_iff (rest.toNat + before.toNat)
  generalize ofTotal (rest.toNat + before.toNat) = checksum at stored ⊢
  have moved := adjust_mod checksum before after
  have boundMoved := (adjust checksum before after).toNat_lt
  -- A stored 0xffff says that all words were zero, but then those that go do not fold to 0xffff.
  have notFull : (adjust checksum before after).toNat ≠ 65535 := by
    intro full
    obtain ⟨nothing, replaced, -⟩ :=
      (adjust_eq_max_iff checksum before after).mp (UInt16.toNat_inj.mp full)
    have complement : checksum.toNat = 65535 := congrArg UInt16.toNat nothing
    have multiple := (fold_eq_max_iff before).mp replaced
    omega
  rw [← UInt16.toNat_inj]
  split
  next zero =>
    rw [UInt16.toNat_zero]
    omega
  next positive =>
    have bound := endAround_le (rest.toNat + after.toNat)
    have residue := endAround_mod (rest.toNat + after.toNat)
    have zero := endAround_eq_zero_iff (rest.toNat + after.toNat)
    rw [toNat_ofTotal]
    omega

/-! ## Additions that are checked -/

namespace Checked

/-- The sum of two numbers, if thirty-two bits are enough for it. -/
def add (left right : UInt32) : Option UInt32 :=
  if left.toNat + right.toNat < 4294967296 then some (left + right) else none

theorem add_eq {left right : UInt32} (fits : left.toNat + right.toNat < 4294967296) :
    add left right = some (left + right) :=
  if_pos fits

theorem toNat_of_add {left right sum : UInt32} (added : add left right = some sum) :
    sum.toNat = left.toNat + right.toNat := by
  unfold add at added
  split at added
  next fits =>
    cases added
    rw [UInt32.toNat_add]
    exact Nat.mod_eq_of_lt fits
  next => cases added

/-- A sum without carries is one of sixteen bits. -/
theorem div_eq_zero_iff (sum : UInt32) : sum / 65536 = 0 ↔ sum.toNat < 65536 := by
  rw [← UInt32.toNat_inj]
  simp only [UInt32.toNat_div, UInt32.reduceToNat]
  omega

/-- The carries of a sum can always be added to its low bits. -/
theorem add_round (sum : UInt32) : add (sum % 65536) (sum / 65536) = some (foldOnce sum) := by
  have bound := sum.toNat_lt
  refine add_eq ?_
  simp only [UInt32.toNat_mod, UInt32.toNat_div, UInt32.reduceToNat]
  omega

/-- Adds the words of some bytes to a sum, checking every addition. -/
def addWords (sum : UInt32) : Bytes → Option UInt32
  | [] => some sum
  | [last] => add sum (Wire.word last 0).toUInt32
  | first :: second :: rest =>
    (add sum (Wire.word first second).toUInt32).bind fun next => addWords next rest

/-- The sum of the words of some bytes, checking every addition. -/
def wordSum (data : Bytes) : Option UInt32 := addWords 0 data

/-- Folds for as long as there are carries, checking every addition. -/
def fold (sum : UInt32) : Option UInt16 :=
  if sum / 65536 = 0 then some sum.toUInt16
  else
    match _ : add (sum % 65536) (sum / 65536) with
    | some next => fold next
    | none => none
termination_by sum.toNat
decreasing_by
  have carries : ¬ sum.toNat < 65536 := (not_congr (div_eq_zero_iff sum)).mp ‹_›
  cases (add_round sum).symm.trans ‹add _ _ = some _›
  rw [toNat_foldOnce]
  exact carryIn_lt carries

/-- Adds two partial sums, checking every addition. -/
def combine (left right : UInt32) : Option UInt32 := do
  let left ← fold left
  let right ← fold right
  add left.toUInt32 right.toUInt32

/-- The complement of a folded sum, checking every addition. -/
def ofSum (sum : UInt32) : Option UInt16 := (fold sum).map (65535 - ·)

/-- An updated checksum, checking every addition. -/
def adjust (stored : UInt16) (before after : UInt32) : Option UInt16 := do
  let before ← fold before
  let after ← fold after
  let left ← add (65535 - stored).toUInt32 (65535 - before).toUInt32
  let sum ← add left after.toUInt32
  ofSum sum

/-! ### They all fit -/

/-- Every addition fits exactly if the whole sum does. -/
theorem addWords_eq (sum : UInt32) (data : Bytes) :
    addWords sum data =
      if sum.toNat + total data < 4294967296 then some (Checksum.addWords sum data) else none := by
  fun_induction addWords sum data with
  | case1 sum =>
      have bound := sum.toNat_lt
      rw [if_pos (by simp only [total]; omega), Checksum.addWords]
  | case2 sum last =>
      have word : (Wire.word last 0).toUInt32.toNat = total [last] := by
        rw [UInt16.toNat_toUInt32, Wire.toNat_word, UInt8.toNat_zero, total, Nat.add_zero]
      rw [add, word, Checksum.addWords]
  | case3 sum first second rest ih =>
      have word : (Wire.word first second).toUInt32.toNat = first.toNat * 256 + second.toNat := by
        rw [UInt16.toNat_toUInt32, Wire.toNat_word]
      by_cases fits : sum.toNat + (Wire.word first second).toUInt32.toNat < 4294967296
      · rw [add_eq fits, Option.bind_some, ih, toNat_of_add (add_eq fits), word,
          Checksum.addWords, total, Nat.add_assoc]
      · rw [add, if_neg fits, Option.bind_none, if_neg (by simp only [total]; omega)]

/-- A message has a sum if it is short enough for all its carries. -/
theorem wordSum_eq {data : Bytes} (short : data.length ≤ 131074) :
    wordSum data = some (Checksum.wordSum data) := by
  have bound := total_le data
  rw [wordSum, addWords_eq, if_pos (by rw [UInt32.toNat_zero]; omega), Checksum.wordSum]

/-- **Folding ends**, and it has ended after two rounds. -/
theorem fold_eq (sum : UInt32) : fold sum = some (Checksum.fold sum) := by
  fun_induction fold sum with
  | case1 sum noCarries =>
      have small := (div_eq_zero_iff sum).mp noCarries
      rw [Option.some_inj, ← UInt16.toNat_inj, toNat_fold_eq_endAround, endAround_of_lt small,
        UInt32.toNat_toUInt16]
      exact Nat.mod_eq_of_lt small
  | case2 sum carries next added ih =>
      cases (add_round sum).symm.trans added
      rw [ih, Option.some_inj]
      apply fold_eq_of_endAround
      rw [toNat_foldOnce]
      exact endAround_carryIn ((not_congr (div_eq_zero_iff sum)).mp carries)
  | case3 sum carries overflow => cases (add_round sum).symm.trans overflow

/-- A word fits on top of a sum that is not close to the limit. -/
theorem add_toUInt32 (sum : UInt32) (room : sum.toNat ≤ 131070) (value : UInt16) :
    add sum value.toUInt32 = some (sum + value.toUInt32) := by
  have bound := value.toNat_lt
  refine add_eq ?_
  rw [UInt16.toNat_toUInt32]
  omega

theorem combine_eq (left right : UInt32) :
    combine left right = some (Checksum.combine left right) := by
  have bound := (Checksum.fold left).toNat_lt
  have small : (Checksum.fold left).toUInt32.toNat ≤ 131070 := by
    rw [UInt16.toNat_toUInt32]
    omega
  exact Option.bind_eq_some_iff.mpr ⟨_, fold_eq left, Option.bind_eq_some_iff.mpr
    ⟨_, fold_eq right, add_toUInt32 _ small _⟩⟩

theorem ofSum_eq (sum : UInt32) : ofSum sum = some (Checksum.ofSum sum) := by
  rw [ofSum, fold_eq, Option.map_some, Checksum.ofSum]

theorem adjust_eq (stored : UInt16) (before after : UInt32) :
    adjust stored before after = some (Checksum.adjust stored before after) := by
  have boundStored := (65535 - stored).toNat_lt
  have boundBefore := (65535 - Checksum.fold before).toNat_lt
  have first := add_toUInt32 (65535 - stored).toUInt32
    (by rw [UInt16.toNat_toUInt32]; omega) (65535 - Checksum.fold before)
  have value := toNat_of_add first
  rw [UInt16.toNat_toUInt32, UInt16.toNat_toUInt32] at value
  have second := add_toUInt32 _ (Nat.le_trans (Nat.le_of_eq value) (by omega)) (Checksum.fold after)
  exact Option.bind_eq_some_iff.mpr ⟨_, fold_eq before, Option.bind_eq_some_iff.mpr
    ⟨_, fold_eq after, Option.bind_eq_some_iff.mpr ⟨_, first, Option.bind_eq_some_iff.mpr
      ⟨_, second, ofSum_eq _⟩⟩⟩⟩

end Checked

/-! ## Partial sums -/

/-- What is known about folding a sum. -/
structure FoldsExactly (sum : UInt32) : Prop where
  /-- Folding ends, and loses no carry. -/
  ends : Checked.fold sum = some (fold sum)
  value : (fold sum).toNat = endAround sum.toNat
  residue : (fold sum).toNat % 65535 = sum.toNat % 65535
  zero : fold sum = 0 ↔ sum = 0

theorem foldsExactly (sum : UInt32) : FoldsExactly sum where
  ends := Checked.fold_eq sum
  value := toNat_fold_eq_endAround sum
  residue := fold_mod sum
  zero := fold_eq_zero_iff sum

/-- What is known about summing up the words of a message. -/
structure SumsInParts (data : Bytes) : Prop where
  /-- No carry is lost. -/
  fits : Checked.wordSum data = some (wordSum data)
  value : (wordSum data).toNat = total data
  /-- The message may be cut between two words, and its parts summed up on their own. -/
  parts : ∀ front back, data = front ++ back → front.length % 2 = 0 →
    fold (wordSum data) = fold (combine (wordSum front) (wordSum back))

theorem sumsInParts {data : Bytes} (short : data.length ≤ 131074) : SumsInParts data where
  fits := Checked.wordSum_eq short
  value := toNat_wordSum data short
  parts := by
    rintro front back rfl even
    exact fold_wordSum_append even short

/-- What is known about updating the checksum of some words, of which those that sum to `before`
are replaced by words that sum to `after`. The other words sum to `rest`. -/
structure UpdatesExactly (rest before after : UInt32) : Prop where
  fits : ∀ stored, Checked.adjust stored before after = some (adjust stored before after)
  /-- The checksum is the one of the words that are there afterwards. -/
  value : rest.toNat + after.toNat ≠ 0 →
    adjust (ofTotal (rest.toNat + before.toNat)) before after =
      ofTotal (rest.toNat + after.toNat)
  /-- If these are zero, it is the other form of zero. -/
  zero : rest.toNat + after.toNat = 0 →
    adjust (ofTotal (rest.toNat + before.toNat)) before after = 0x0000 ∧
      ofTotal (rest.toNat + after.toNat) = 0xffff

theorem updatesExactly (rest before after : UInt32) : UpdatesExactly rest before after where
  fits stored := Checked.adjust_eq stored before after
  value positive := by rw [adjust_ofTotal, if_neg positive]
  zero nothing := by
    refine ⟨by rw [adjust_ofTotal, if_pos nothing], ?_⟩
    rw [← UInt16.toNat_inj, nothing, toNat_ofTotal, endAround_of_lt (Nat.zero_lt_succ _)]
    rfl

/-- **Partial sums compose.** Every sum folds, to what it comes to. Two sums can be combined, and
fold to what both together come to. A message of no more than 131074 bytes can be summed up, and
in parts as well as in one go. A checksum that is updated for some words is the checksum of all
words, up to the form of zero. -/
theorem partial_sums_compose :
    (∀ sum, FoldsExactly sum) ∧
      (∀ left right, Checked.combine left right = some (combine left right) ∧
        (fold (combine left right)).toNat = endAround (left.toNat + right.toNat)) ∧
      (∀ data : Bytes, data.length ≤ 131074 → SumsInParts data) ∧
      ∀ rest before after, UpdatesExactly rest before after := by
  refine ⟨foldsExactly, fun left right => ⟨Checked.combine_eq left right, ?_⟩,
    fun data short => sumsInParts short, updatesExactly⟩
  rw [toNat_fold_eq_endAround, endAround_combine]

/-- Two words that make a carry, and an odd byte behind them: in one go they fold to what they fold
to in parts. -/
theorem partial_sums_compose_carrying :
    ([0xff, 0xff, 0x80, 0x00, 0x12] : Bytes).length ≤ 131074 ∧
      fold (wordSum [0xff, 0xff, 0x80, 0x00, 0x12]) = 0x9200 ∧
      fold (wordSum [0xff, 0xff, 0x80, 0x00, 0x12]) =
        fold (combine (wordSum [0xff, 0xff]) (wordSum [0x80, 0x00, 0x12])) := by
  have short : ([0xff, 0xff, 0x80, 0x00, 0x12] : Bytes).length ≤ 131074 := by decide
  refine ⟨short, by decide, ?_⟩
  exact (partial_sums_compose.2.2.1 _ short).parts [0xff, 0xff] [0x80, 0x00, 0x12] rfl rfl

end FamilyGateway.Checksum
