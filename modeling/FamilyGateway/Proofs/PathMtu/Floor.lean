import FamilyGateway.PathMtu

/-!
# Path MTUs stay above the floor of their family

Every MTU is raised to the least value of its family before it is remembered, and an
eviction only forgets (`Cache.entries_evict`). So whatever was recorded, no lookup answers
with less than the floor of the family it is made for (`Cache.Floored.floor_le_lookup`). The
MTU that was recorded last is found again while the cache has room (`Cache.lookup_record`).
-/

set_option autoImplicit false

namespace FamilyGateway.PathMtu

theorem toNat_max (left right : UInt16) : (max left right).toNat = max left.toNat right.toNat := by
  have larger : max left right = if left ≤ right then right else left := rfl
  rw [larger, Nat.max_def]
  simp only [UInt16.le_iff_toNat_le]
  split <;> rfl

namespace Cache

/-- No remembered MTU is below what the family of its destination allows. -/
def Floored (cache : Cache) : Prop :=
  ∀ (destination : Address) (entry : Entry), cache.entries[destination]? = some entry →
    (floor destination.family).toNat ≤ entry.mtu.toNat

/-! ## Evictions -/

theorem survivors_sublist (cache : Cache) (now : Instant) :
    (cache.survivors now).Sublist cache.newestFirst :=
  (List.take_sublist _ _).trans (List.takeWhile_sublist _)

/-- No two survivors have one destination. -/
theorem survivors_distinct (cache : Cache) (now : Instant) :
    (cache.survivors now).Pairwise fun left right => (left.1 == right.1) = false := by
  refine List.Pairwise.sublist (cache.survivors_sublist now) ?_
  refine (List.mergeSort_perm _ _).symm.pairwise Std.HashMap.distinct_keys_toList ?_
  intro left right apart
  rw [BEq.comm]
  exact apart

/-- What an eviction leaves was there before. -/
theorem entries_evict {cache : Cache} {now : Instant} {destination : Address} {entry : Entry}
    (kept : (cache.evict now).entries[destination]? = some entry) :
    cache.entries[destination]? = some entry := by
  have distinct := cache.survivors_distinct now
  have present : destination ∈ (cache.survivors now).map Prod.fst := by
    have found : destination ∈ (cache.evict now).entries :=
      Std.HashMap.mem_iff_isSome_getElem?.mpr (by rw [kept]; rfl)
    rw [evict, Std.HashMap.mem_iff_contains, Std.HashMap.contains_ofList] at found
    exact List.contains_iff_mem.mp found
  obtain ⟨⟨_, other⟩, member, rfl⟩ := List.mem_map.mp present
  have same : (cache.evict now).entries[_]? = some other :=
    Std.HashMap.getElem?_ofList_of_mem BEq.rfl distinct member
  cases kept.symm.trans same
  have before := (cache.survivors_sublist now).subset member
  exact Std.HashMap.mem_toList_iff_getElem?_eq_some.mp (List.mem_mergeSort.mp before)

/-! ## Lookups -/

/-- While there is room nothing has to be forgotten. -/
theorem record_of_fits {cache : Cache} (fits : cache.entries.size < cache.maxEntries)
    (destination : Address) (mtu : UInt16) (now : Instant) :
    cache.record destination mtu now = { cache with
      entries := cache.entries.insert destination
        ⟨max mtu (floor destination.family), now, cache.nextStamp⟩
      nextStamp := cache.nextStamp + 1 } := by
  have stays : ∀ entry, ¬ cache.maxEntries < (cache.entries.insert destination entry).size := by
    intro entry
    have size := Std.HashMap.size_insert_le (m := cache.entries) (k := destination) (v := entry)
    omega
  simp only [record, stays, if_false]

/-- What is recorded while there is room is found. -/
theorem lookup_record {cache : Cache} (fits : cache.entries.size < cache.maxEntries)
    (destination : Address) (mtu : UInt16) (now : Instant) :
    (cache.record destination mtu now).lookup destination =
      max mtu (floor destination.family) := by
  rw [record_of_fits fits, lookup, Std.HashMap.getElem?_insert_self]

/-- While there is room a report changes the lookup of its destination only. -/
theorem lookup_record_of_ne {cache : Cache} (fits : cache.entries.size < cache.maxEntries)
    {destination other : Address} (apart : destination ≠ other) (mtu : UInt16) (now : Instant) :
    (cache.record destination mtu now).lookup other = cache.lookup other := by
  rw [record_of_fits fits, lookup, Std.HashMap.getElem?_insert,
    if_neg fun same => apart (eq_of_beq same), ← lookup]

theorem floor_le_defaultMtu (family : Family) : (floor family).toNat ≤ defaultMtu.toNat := by
  cases family <;> decide

namespace Floored

variable {cache : Cache}

/-- A lookup answers with no less than the floor. -/
theorem floor_le_lookup (floored : cache.Floored) (destination : Address) :
    (floor destination.family).toNat ≤ (cache.lookup destination).toNat := by
  unfold lookup
  split
  next entry found => exact floored destination entry found
  next => exact floor_le_defaultMtu _

theorem empty (maxEntries lifetime : Nat) : (Cache.empty maxEntries lifetime).Floored := by
  intro destination entry found
  rw [Cache.empty, Std.HashMap.getElem?_empty] at found
  cases found

theorem evict (floored : cache.Floored) (now : Instant) : (cache.evict now).Floored :=
  fun destination entry kept => floored destination entry (entries_evict kept)

/-- Recording keeps every MTU above its floor, whatever MTU was reported and whenever. -/
theorem record (floored : cache.Floored) (destination : Address) (mtu : UInt16) (now : Instant) :
    (cache.record destination mtu now).Floored := by
  have grown : Floored { cache with
      entries := cache.entries.insert destination
        ⟨max mtu (floor destination.family), now, cache.nextStamp⟩
      nextStamp := cache.nextStamp + 1 } := by
    intro other entry found
    rw [Std.HashMap.getElem?_insert] at found
    split at found
    next same =>
      cases found
      rw [← eq_of_beq same, toNat_max]
      exact Nat.le_max_right _ _
    next => exact floored other entry found
  simp only [Cache.record]
  split
  next => exact grown.evict now
  next => exact grown

end Floored

/-- Every report is numbered. -/
theorem nextStamp_record (cache : Cache) (destination : Address) (mtu : UInt16) (now : Instant) :
    (cache.record destination mtu now).nextStamp = cache.nextStamp + 1 := by
  simp only [Cache.record]
  split <;> rfl

end Cache

end FamilyGateway.PathMtu
