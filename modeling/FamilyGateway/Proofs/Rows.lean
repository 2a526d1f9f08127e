import Mathlib.Data.List.Nodup
import Mathlib.Data.List.Pairwise
import Std.Data.HashMap

/-!
# Rows under distinct keys

Tables are kept as lists of rows of which no two have one key. Then the row that is found
for a key is the row that has it (`find?_key_eq_some_iff`), a hash map that is filled with
the rows answers what a search of them answers (`getElem?_ofList_rows`), and a hash map in
which exactly the rows are found holds nothing else (`toList_perm`).
-/

set_option autoImplicit false

namespace FamilyGateway

/-! ## Looking up -/

/-- Among rows with distinct keys, looking a key up finds the row that has it. -/
theorem find?_key_eq_some_iff {ρ κ : Type} [DecidableEq κ] {rows : List ρ} {key : ρ → κ}
    (distinct : (rows.map key).Nodup) {sought : κ} {row : ρ} :
    (rows.find? fun row => key row = sought) = some row ↔ row ∈ rows ∧ key row = sought := by
  constructor
  · intro found
    exact ⟨List.mem_of_find?_eq_some found, by simpa using List.find?_some found⟩
  · rintro ⟨member, rfl⟩
    cases found : rows.find? fun other => key other = key row with
    | none =>
        have missed := List.find?_eq_none.mp found row member
        exact absurd (decide_eq_true rfl) missed
    | some other =>
        have same : key other = key row := by simpa using List.find?_some found
        rw [List.inj_on_of_nodup_map distinct (List.mem_of_find?_eq_some found) member same]

/-! ## Filling a hash map -/

/-- Distinct keys are told apart. -/
theorem pairwise_keys {κ ν : Type} [BEq κ] [LawfulBEq κ] {pairs : List (κ × ν)}
    (distinct : (pairs.map Prod.fst).Nodup) :
    pairs.Pairwise fun left right => (left.1 == right.1) = false :=
  (List.pairwise_map.mp distinct).imp fun differ => beq_false_of_ne differ

/-- In a map that is filled with pairs of distinct keys every pair is found. -/
theorem getElem?_ofList_eq_some_iff {κ ν : Type} [BEq κ] [Hashable κ] [LawfulBEq κ]
    [LawfulHashable κ] {pairs : List (κ × ν)} (distinct : (pairs.map Prod.fst).Nodup) {key : κ}
    {value : ν} : (Std.HashMap.ofList pairs)[key]? = some value ↔ (key, value) ∈ pairs := by
  have apart := pairwise_keys distinct
  constructor
  · intro found
    have present : key ∈ Std.HashMap.ofList pairs :=
      Std.HashMap.mem_iff_isSome_getElem?.mpr (by rw [found]; rfl)
    rw [Std.HashMap.mem_ofList, List.contains_iff_mem] at present
    obtain ⟨⟨_, held⟩, member, rfl⟩ := List.mem_map.mp present
    have same := Std.HashMap.getElem?_ofList_of_mem BEq.rfl apart member
    rw [same] at found
    cases found
    exact member
  · exact fun member => Std.HashMap.getElem?_ofList_of_mem BEq.rfl apart member

/-- A map that is filled with pairs has a key exactly if the key is found among the pairs. -/
theorem contains_ofList_eq_isSome {κ ν ω : Type} [BEq κ] [Hashable κ] [LawfulBEq κ]
    [LawfulHashable κ] {pairs : List (κ × ν)} {key : κ} {found : Option ω}
    (missed : found = none ↔ key ∉ pairs.map Prod.fst) :
    (Std.HashMap.ofList pairs).contains key = found.isSome := by
  rw [Std.HashMap.contains_ofList, Bool.eq_iff_iff, List.contains_iff_mem,
    Option.isSome_iff_ne_none, ne_eq, missed, not_not]

/-- A map in which exactly some pairs are found lists these pairs in some order. -/
theorem toList_perm {κ ν : Type} [BEq κ] [Hashable κ] [LawfulBEq κ] [LawfulHashable κ]
    {entries : Std.HashMap κ ν} {pairs : List (κ × ν)} (distinct : (pairs.map Prod.fst).Nodup)
    (found : ∀ key value, entries[key]? = some value ↔ (key, value) ∈ pairs) :
    entries.toList.Perm pairs := by
  have once : entries.toList.Nodup := by
    refine Std.HashMap.distinct_keys_toList.imp fun {left right} apart same => ?_
    rw [same, BEq.rfl] at apart
    cases apart
  refine (List.perm_ext_iff_of_nodup once distinct.of_map).mpr fun pair => ?_
  rw [Std.HashMap.mem_toList_iff_getElem?_eq_some, found]

/-- A map that is filled with rows under distinct keys answers what a search of the rows answers. -/
theorem getElem?_ofList_rows {ρ κ ν : Type} [DecidableEq κ] [Hashable κ] [LawfulHashable κ]
    {rows : List ρ} {key : ρ → κ} (value : ρ → ν) (distinct : (rows.map key).Nodup)
    (sought : κ) : (Std.HashMap.ofList (rows.map fun row => (key row, value row)))[sought]? =
      (rows.find? fun row => key row = sought).map value := by
  have keys : ((rows.map fun row => (key row, value row)).map Prod.fst).Nodup := by
    rw [List.map_map]
    exact distinct
  refine Option.ext fun held => ?_
  rw [getElem?_ofList_eq_some_iff keys, Option.map_eq_some_iff, List.mem_map]
  simp only [find?_key_eq_some_iff distinct]
  constructor
  · rintro ⟨row, member, same⟩
    cases same
    exact ⟨row, ⟨member, rfl⟩, rfl⟩
  · rintro ⟨row, ⟨member, rfl⟩, rfl⟩
    exact ⟨row, member, rfl⟩

end FamilyGateway
