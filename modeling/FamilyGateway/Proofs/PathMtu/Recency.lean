import FamilyGateway.PathMtu
import FamilyGateway.Proofs.Rows
import Mathlib.Data.List.Induction

/-!
# The cache as a recency list

The cache keeps its entries in no order and stamps them as they come. What it does can be
said without stamps, with a list of reports on distinct destinations, the newest first
(`Recency.record`): a report goes in front and takes the place of an older one on the same
destination, and a list that has become too long is cut.

The two agree after every course of reports, whatever their times are
(`Cache.agrees_with_recency`). What carries the argument is that the entries have a
single order by their stamps, that a new report comes first in it, and that an eviction
cuts it short (`Cache.Lists`).
-/

set_option autoImplicit false

namespace FamilyGateway.PathMtu

/-- A report on the path to a destination: the MTU, and when the report came. -/
structure Feedback where
  destination : Address
  mtu : UInt16
  arrived : Instant
  deriving DecidableEq, Repr

/-- The report with an MTU that is at least the floor of the family. -/
def Feedback.raised (report : Feedback) : Feedback :=
  { report with mtu := max report.mtu (floor report.destination.family) }

/-! ## The reference -/

namespace Recency

/-- How many reports of a list that has become too long are kept: those before the first one that
is older than the lifetime, and at most half of the limit. A report from the future has no age. -/
def kept (limit lifetime : Nat) (now : Instant) (recent : List Feedback) : Nat :=
  match recent.findIdx? fun known => lifetime < now - known.arrived with
  | some expired => min expired (limit / 2)
  | none => limit / 2

/-- Takes a report into the list. -/
def record (limit lifetime : Nat) (recent : List Feedback) (report : Feedback) : List Feedback :=
  let grown := report.raised ::
    recent.filter fun known => known.destination ≠ report.destination
  if limit < grown.length then grown.take (kept limit lifetime report.arrived grown) else grown

/-- The list after some reports, the first one first. -/
def after (limit lifetime : Nat) (reports : List Feedback) : List Feedback :=
  reports.foldl (record limit lifetime) []

/-- The MTU towards a destination. -/
def lookup (recent : List Feedback) (destination : Address) : UInt16 :=
  match recent.find? fun known => known.destination = destination with
  | some known => known.mtu
  | none => defaultMtu

end Recency

namespace Cache

variable {cache : Cache} {rows : List (Address × Entry)}

/-- Takes a report in. -/
def learn (cache : Cache) (report : Feedback) : Cache :=
  cache.record report.destination report.mtu report.arrived

/-- The cache after some reports, the first one first. -/
def after (maxEntries lifetime : Nat) (reports : List Feedback) : Cache :=
  reports.foldl learn (empty maxEntries lifetime)

theorem after_concat (maxEntries lifetime : Nat) (reports : List Feedback) (report : Feedback) :
    after maxEntries lifetime (reports ++ [report]) =
      (after maxEntries lifetime reports).learn report := by
  simp only [after, List.foldl_append, List.foldl_cons, List.foldl_nil]

/-! ## Taking a report in -/

/-- The entry for a report. -/
def entryFor (cache : Cache) (report : Feedback) : Entry :=
  ⟨report.raised.mtu, report.arrived, cache.nextStamp⟩

/-- The cache with a report entered, before it makes room. -/
def note (cache : Cache) (report : Feedback) : Cache :=
  { cache with
    entries := cache.entries.insert report.destination (cache.entryFor report)
    nextStamp := cache.nextStamp + 1 }

/-- A report is entered under its destination, and every other entry stays. -/
theorem entries_note_iff {report : Feedback} {destination : Address} {entry : Entry} :
    (cache.note report).entries[destination]? = some entry ↔
      destination = report.destination ∧ entry = cache.entryFor report ∨
        destination ≠ report.destination ∧ cache.entries[destination]? = some entry := by
  show (cache.entries.insert report.destination (cache.entryFor report))[destination]? = _ ↔ _
  rw [Std.HashMap.getElem?_insert]
  by_cases same : report.destination = destination
  · subst same
    simp [eq_comm]
  · simp [same, Ne.symm same]

/-- The report makes the cache outgrow its limit. -/
def Overflows (cache : Cache) (report : Feedback) : Prop :=
  cache.maxEntries < (cache.note report).size

instance (cache : Cache) (report : Feedback) : Decidable (cache.Overflows report) :=
  inferInstanceAs (Decidable (_ < _))

/-- The cache makes room exactly if it has outgrown its limit. -/
theorem learn_eq (cache : Cache) (report : Feedback) :
    cache.learn report =
      if cache.Overflows report then (cache.note report).evict report.arrived
      else cache.note report := rfl

@[simp] theorem maxEntries_learn (cache : Cache) (report : Feedback) :
    (cache.learn report).maxEntries = cache.maxEntries := by
  rw [learn_eq]
  split <;> rfl

@[simp] theorem lifetime_learn (cache : Cache) (report : Feedback) :
    (cache.learn report).lifetime = cache.lifetime := by
  rw [learn_eq]
  split <;> rfl

/-- Limit and lifetime stay what they are. -/
theorem limits_after (maxEntries lifetime : Nat) (reports : List Feedback) :
    (after maxEntries lifetime reports).maxEntries = max maxEntries 2 ∧
      (after maxEntries lifetime reports).lifetime = lifetime := by
  induction reports using List.reverseRecOn with
  | nil => exact ⟨rfl, rfl⟩
  | append_singleton reports report ih =>
      rw [after_concat, maxEntries_learn, lifetime_learn]
      exact ih

/-! ## The order of the entries -/

/-- The rows are what the cache remembers, the newest first. -/
structure Lists (cache : Cache) (rows : List (Address × Entry)) : Prop where
  found : ∀ destination entry,
    cache.entries[destination]? = some entry ↔ (destination, entry) ∈ rows
  distinct : (rows.map Prod.fst).Nodup
  ordered : rows.Pairwise fun newer older => older.2.stamp < newer.2.stamp
  stamped : ∀ row ∈ rows, row.2.stamp < cache.nextStamp

/-- The rows that an eviction leaves. -/
def keptRows (cache : Cache) (now : Instant) (rows : List (Address × Entry)) :
    List (Address × Entry) :=
  (rows.takeWhile fun row => now - row.2.updated ≤ cache.lifetime).take (cache.maxEntries / 2)

/-- The rows with a report in front. -/
def notedRows (cache : Cache) (report : Feedback) (rows : List (Address × Entry)) :
    List (Address × Entry) :=
  (report.destination, cache.entryFor report) ::
    rows.filter fun row => row.1 ≠ report.destination

/-- An eviction cuts the rows short. -/
theorem keptRows_initial (cache : Cache) (now : Instant) (rows : List (Address × Entry)) :
    cache.keptRows now rows <+: rows :=
  List.IsPrefix.trans ( List.take_prefix _ _) ( List.takeWhile_prefix _)

namespace Lists

theorem empty (maxEntries lifetime : Nat) : (Cache.empty maxEntries lifetime).Lists [] where
  found destination entry := by simp [Cache.empty]
  distinct := List.nodup_nil
  ordered := List.Pairwise.nil
  stamped := List.forall_mem_nil _

theorem toList_perm (lists : cache.Lists rows) : cache.entries.toList.Perm rows :=
  FamilyGateway.toList_perm lists.distinct lists.found

theorem size (lists : cache.Lists rows) : cache.size = rows.length := by
  rw [← lists.toList_perm.length_eq, Std.HashMap.length_toList]
  rfl

theorem lookup (lists : cache.Lists rows) (destination : Address) :
    cache.lookup destination =
      match rows.find? fun row => row.1 = destination with
      | some row => row.2.mtu
      | none => defaultMtu := by
  unfold Cache.lookup
  cases found : cache.entries[destination]? with
  | some entry =>
      have row := (find?_key_eq_some_iff lists.distinct).mpr
        ⟨(lists.found destination entry).mp found, rfl⟩
      rw [row]
  | none =>
      have missing : rows.find? (fun row => row.1 = destination) = none := by
        refine List.find?_eq_none.mpr fun row member same => ?_
        obtain rfl : row.1 = destination := of_decide_eq_true same
        cases found.symm.trans ((lists.found row.1 row.2).mpr member)
      rw [missing]

/-- Sorting by stamps gives the rows, because there is one order by stamps. -/
theorem newestFirst (lists : cache.Lists rows) : cache.newestFirst = rows := by
  have sorted : cache.newestFirst.Pairwise fun left right => right.2.stamp ≤ left.2.stamp := by
    refine (List.pairwise_mergeSort ?_ ?_ _).imp fun below => of_decide_eq_true below
    · intro a b c first second
      simp only [decide_eq_true_eq] at first second ⊢
      omega
    · intro a b
      simp only [Bool.or_eq_true, decide_eq_true_eq]
      omega
  have perm : cache.newestFirst.Perm rows := (List.mergeSort_perm _ _).trans lists.toList_perm
  have stamps : (rows.map fun row => row.2.stamp).Nodup :=
    List.pairwise_map.mpr (lists.ordered.imp Nat.ne_of_gt)
  refine perm.eq_of_pairwise ?_ sorted (lists.ordered.imp Nat.le_of_lt)
  intro left right leftMember rightMember older newer
  exact List.inj_on_of_nodup_map stamps (perm.subset leftMember) rightMember
    (Nat.le_antisymm newer older)

/-- A report goes in front and takes the place of an older one on its destination. -/
theorem note (lists : cache.Lists rows) (report : Feedback) :
    (cache.note report).Lists (cache.notedRows report rows) where
  found destination entry := by
    rw [entries_note_iff, lists.found, notedRows, List.mem_cons, List.mem_filter, Prod.mk.injEq,
      and_comm (a := destination ≠ _)]
    simp only [ne_eq, decide_not, Bool.not_eq_true', decide_eq_false_iff_not]
  distinct := by
    rw [notedRows, List.map_cons, List.nodup_cons]
    refine ⟨?_, lists.distinct.sublist (List.filter_sublist.map _)⟩
    intro member
    obtain ⟨row, kept, same⟩ := List.mem_map.mp member
    exact of_decide_eq_true (List.mem_filter.mp kept).2 same
  ordered := by
    refine List.pairwise_cons.mpr ⟨fun row member => ?_, lists.ordered.sublist List.filter_sublist⟩
    exact lists.stamped row (List.mem_of_mem_filter member)
  stamped row member := by
    show row.2.stamp < cache.nextStamp + 1
    rcases List.mem_cons.mp member with rfl | older
    · exact Nat.lt_succ_self _
    · exact Nat.lt_succ_of_lt (lists.stamped row (List.mem_of_mem_filter older))

/-- What an eviction leaves are the first of the rows. -/
theorem evict (lists : cache.Lists rows) (now : Instant) :
    (cache.evict now).Lists (cache.keptRows now rows) where
  found destination entry := by
    have survivors : cache.survivors now = cache.keptRows now rows := by
      rw [survivors, lists.newestFirst, keptRows]
    have distinct : ((cache.keptRows now rows).map Prod.fst).Nodup :=
      lists.distinct.sublist ((keptRows_initial cache now rows).sublist.map _)
    show (Std.HashMap.ofList (cache.survivors now))[destination]? = _ ↔ _
    rw [survivors, getElem?_ofList_eq_some_iff distinct]
  distinct := lists.distinct.sublist ((keptRows_initial cache now rows).sublist.map _)
  ordered := lists.ordered.sublist (keptRows_initial cache now rows).sublist
  stamped row member := lists.stamped row ((keptRows_initial cache now rows).subset member)

theorem overflows_iff (lists : cache.Lists rows) (report : Feedback) :
    cache.Overflows report ↔ cache.maxEntries < (cache.notedRows report rows).length := by
  rw [Overflows, (lists.note report).size]

end Lists

/-- The rows after a report was taken in. -/
def learnedRows (cache : Cache) (report : Feedback) (rows : List (Address × Entry)) :
    List (Address × Entry) :=
  if cache.Overflows report then
    cache.keptRows report.arrived (cache.notedRows report rows)
  else cache.notedRows report rows

theorem Lists.learn (lists : cache.Lists rows) (report : Feedback) :
    (cache.learn report).Lists (cache.learnedRows report rows) := by
  rw [learn_eq, learnedRows]
  split
  next => exact (lists.note report).evict report.arrived
  next => exact lists.note report

/-! ## Agreement -/

/-- What an entry remembers of the report that it is for. -/
def reportOf (row : Address × Entry) : Feedback := ⟨row.1, row.2.mtu, row.2.updated⟩

theorem map_notedRows (cache : Cache) (report : Feedback) (rows : List (Address × Entry)) :
    (cache.notedRows report rows).map reportOf =
      report.raised ::
        (rows.map reportOf).filter fun known => known.destination ≠ report.destination := by
  rw [notedRows, List.map_cons, List.filter_map]
  rfl

/-- The rows are cut where the reference cuts. -/
theorem map_keptRows (cache : Cache) (now : Instant) {rows : List (Address × Entry)}
    (long : cache.maxEntries < rows.length) :
    (cache.keptRows now rows).map reportOf =
      (rows.map reportOf).take
        (Recency.kept cache.maxEntries cache.lifetime now (rows.map reportOf)) := by
  have stale : (fun row : Address × Entry => !decide (now - row.2.updated ≤ cache.lifetime)) =
      (fun known => decide (cache.lifetime < now - known.arrived)) ∘ reportOf := by
    funext row
    rw [Bool.eq_iff_iff, Bool.not_eq_true', decide_eq_false_iff_not, Nat.not_le]
    exact decide_eq_true_iff.symm
  rw [keptRows, List.takeWhile_eq_take_findIdx_not, List.take_take, List.map_take, stale,
    Recency.kept, List.findIdx?_map, Nat.min_comm]
  cases expired : rows.findIdx?
      ((fun known => decide (cache.lifetime < now - known.arrived)) ∘ reportOf) with
  | some index => rw [(List.findIdx?_eq_some_iff_findIdx_eq.mp expired).2]
  | none =>
      rw [List.findIdx?_eq_none_iff_findIdx_eq.mp expired, Nat.min_eq_right (by omega)]

theorem map_learnedRows (lists : cache.Lists rows) (report : Feedback) :
    (cache.learnedRows report rows).map reportOf =
      Recency.record cache.maxEntries cache.lifetime (rows.map reportOf) report := by
  have grown := cache.map_notedRows report rows
  have length := congrArg List.length grown
  rw [List.length_map] at length
  unfold learnedRows Recency.record
  simp only [lists.overflows_iff, ← grown, List.length_map]
  by_cases long : cache.maxEntries < (cache.notedRows report rows).length
  · rw [if_pos long, if_pos long, map_keptRows cache report.arrived long]
  · rw [if_neg long, if_neg long]

/-- The cache and a recency list remember the same. -/
structure Agrees (cache : Cache) (recent : List Feedback) : Prop where
  /-- The list has one report on each destination. -/
  distinct : (recent.map Feedback.destination).Nodup
  size : cache.size = recent.length
  lookup : ∀ destination, cache.lookup destination = Recency.lookup recent destination

theorem Lists.agrees (lists : cache.Lists rows) : cache.Agrees (rows.map reportOf) where
  distinct := by
    rw [List.map_map]
    exact lists.distinct
  size := by rw [lists.size, List.length_map]
  lookup destination := by
    rw [lists.lookup, Recency.lookup, List.find?_map]
    show _ = match (rows.find? fun row => row.1 = destination).map reportOf with
      | some known => known.mtu
      | none => defaultMtu
    cases rows.find? fun row => row.1 = destination <;> rfl

/-- After every course of reports the entries have an order, and in it they are the recency list. -/
theorem exists_lists (maxEntries lifetime : Nat) (reports : List Feedback) :
    ∃ rows, (after maxEntries lifetime reports).Lists rows ∧
      rows.map reportOf = Recency.after (max maxEntries 2) lifetime reports := by
  induction reports using List.reverseRecOn with
  | nil => exact ⟨[], .empty maxEntries lifetime, rfl⟩
  | append_singleton reports report ih =>
      obtain ⟨rows, lists, same⟩ := ih
      obtain ⟨limit, age⟩ := limits_after maxEntries lifetime reports
      refine ⟨_, after_concat maxEntries lifetime reports report ▸ lists.learn report, ?_⟩
      rw [map_learnedRows lists, same, limit, age, Recency.after, Recency.after,
        List.foldl_append, List.foldl_cons, List.foldl_nil]

/-- **The cache does what a recency list does.** After every course of reports, with any MTUs at
any times, it has as many entries and answers every lookup alike. -/
theorem agrees_with_recency (maxEntries lifetime : Nat) (reports : List Feedback) :
    (after maxEntries lifetime reports).Agrees
      (Recency.after (max maxEntries 2) lifetime reports) := by
  obtain ⟨rows, lists, same⟩ := exists_lists maxEntries lifetime reports
  rw [← same]
  exact lists.agrees

/-- Of two reports that are too many, with one older than the lifetime, the newest is left. -/
example :
    Recency.after 2 60 [⟨.v4 ⟨192, 0, 2, 1⟩, 1400, 0⟩, ⟨.v4 ⟨192, 0, 2, 2⟩, 1300, 0⟩,
      ⟨.v4 ⟨192, 0, 2, 3⟩, 20, 50⟩] = [⟨.v4 ⟨192, 0, 2, 3⟩, 68, 50⟩] := by
  decide

end Cache

end FamilyGateway.PathMtu
