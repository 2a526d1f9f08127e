import FamilyGateway.Proofs.PathMtu.Floor
import FamilyGateway.Proofs.PathMtu.Recency

/-!
# What the cache keeps and what it forgets

An eviction cuts the list of entries, the newest first, at one place. From this place
follows all that is promised about it: nothing too old is left, at most half of the limit is
left, and everything that is left came later than everything that is gone. The report that
made the cache outgrow its limit has no age and stands in front, so it is always left
(`Cache.front_mem_learnedRows`).

The stamp of an entry is the position of its report in the course of all reports
(`Cache.Dated`), so what is said about stamps is said about the order in which the
reports came (`Cache.retains`).
-/

set_option autoImplicit false

namespace FamilyGateway.PathMtu

/-- The entry is for the report at the position of its stamp, and no later one has the same
destination. -/
structure Entry.StemsFrom (entry : Entry) (reports : List Feedback) (destination : Address) :
    Prop where
  report : ∃ mtu, reports[entry.stamp]? = some ⟨destination, mtu, entry.updated⟩ ∧
    entry.mtu = max mtu (floor destination.family)
  last : ∀ later ∈ reports.drop (entry.stamp + 1), later.destination ≠ destination

namespace Cache

variable {cache : Cache} {rows : List (Address × Entry)}

/-! ## The course of the reports -/

/-- Every entry is for a report in the course of reports that led here. -/
structure Dated (cache : Cache) (reports : List Feedback) : Prop where
  next : cache.nextStamp = reports.length
  stems : ∀ (destination : Address) (entry : Entry), cache.entries[destination]? = some entry →
    entry.StemsFrom reports destination

/-- Taking a report in remembers nothing else. -/
theorem entries_note_of_learn {report : Feedback} {destination : Address} {entry : Entry}
    (kept : (cache.learn report).entries[destination]? = some entry) :
    (cache.note report).entries[destination]? = some entry := by
  rw [learn_eq] at kept
  split at kept
  next => exact entries_evict kept
  next => exact kept

theorem nextStamp_learn (cache : Cache) (report : Feedback) :
    (cache.learn report).nextStamp = cache.nextStamp + 1 := by
  rw [learn_eq]
  split <;> rfl

namespace Dated

variable {reports : List Feedback}

theorem empty (maxEntries lifetime : Nat) : (Cache.empty maxEntries lifetime).Dated [] where
  next := rfl
  stems destination entry found := by
    rw [Cache.empty, Std.HashMap.getElem?_empty] at found
    cases found

/-- A new report is the last on its destination and leaves every other entry the last on its own. -/
theorem note (dated : cache.Dated reports) (report : Feedback) :
    (cache.note report).Dated (reports ++ [report]) where
  next := by
    rw [List.length_append, ← dated.next]
    rfl
  stems destination entry found := by
    rcases entries_note_iff.mp found with ⟨rfl, rfl⟩ | ⟨other, before⟩
    · refine ⟨⟨report.mtu, ?_, rfl⟩, ?_⟩
      · show (reports ++ [report])[cache.nextStamp]? = some report
        rw [dated.next, List.getElem?_concat_length]
      · show ∀ later ∈ (reports ++ [report]).drop (cache.nextStamp + 1), _
        rw [dated.next, List.drop_of_length_le (by simp)]
        exact List.forall_mem_nil _
    · obtain ⟨⟨mtu, placed, raised⟩, last⟩ := dated.stems destination entry before
      obtain ⟨within, _⟩ := List.getElem?_eq_some_iff.mp placed
      refine ⟨⟨mtu, ?_, raised⟩, ?_⟩
      · rw [List.getElem?_append_left within, placed]
      · rw [List.drop_append_of_le_length within, List.forall_mem_append,
          List.forall_mem_singleton]
        exact ⟨last, Ne.symm other⟩

theorem learn (dated : cache.Dated reports) (report : Feedback) :
    (cache.learn report).Dated (reports ++ [report]) where
  next := (nextStamp_learn cache report).trans (dated.note report).next
  stems destination entry kept :=
    (dated.note report).stems destination entry (entries_note_of_learn kept)

end Dated

theorem dated_after (maxEntries lifetime : Nat) (reports : List Feedback) :
    (after maxEntries lifetime reports).Dated reports := by
  induction reports using List.reverseRecOn with
  | nil => exact .empty maxEntries lifetime
  | append_singleton reports report ih =>
      rw [after_concat]
      exact ih.learn report

/-! ## The place of the cut -/

theorem learnedRows_initial (cache : Cache) (report : Feedback) (rows : List (Address × Entry)) :
    cache.learnedRows report rows <+: cache.notedRows report rows := by
  unfold learnedRows
  split
  next => exact keptRows_initial cache report.arrived _
  next => exact List.prefix_refl _

/-- The report that is taken in is never forgotten at once. -/
theorem front_mem_learnedRows (room : 2 ≤ cache.maxEntries) (report : Feedback)
    (rows : List (Address × Entry)) :
    (report.destination, cache.entryFor report) ∈ cache.learnedRows report rows := by
  unfold learnedRows
  split
  next =>
    obtain ⟨more, half⟩ := Nat.exists_eq_add_of_lt (show 0 < cache.maxEntries / 2 by omega)
    have young : report.arrived - (cache.entryFor report).updated ≤ cache.lifetime := by
      rw [entryFor, Nat.sub_self]
      exact Nat.zero_le _
    rw [keptRows, notedRows, half, List.takeWhile_cons_of_pos, List.take_succ_cons]
    · exact List.mem_cons_self
    · exact decide_eq_true young
  next => exact List.mem_cons_self

/-- What has come in front of the cut is newer than what has come behind it. -/
theorem Lists.stamp_lt (lists : cache.Lists rows) {kept : List (Address × Entry)}
    (first : kept <+: rows) {newer older : Address × Entry} (left : newer ∈ kept)
    (before : older ∈ rows) (gone : older ∉ kept) : older.2.stamp < newer.2.stamp := by
  obtain ⟨rest, rfl⟩ := first
  have cut := (List.pairwise_append.mp lists.ordered).2.2
  rcases List.mem_append.mp before with stays | forgotten
  · exact absurd stays gone
  · exact cut newer left older forgotten

theorem length_learnedRows_le (lists : cache.Lists rows) (report : Feedback) :
    (cache.learnedRows report rows).length ≤ cache.maxEntries := by
  unfold learnedRows
  split
  next =>
    have half := List.length_take_le (cache.maxEntries / 2)
      ((cache.notedRows report rows).takeWhile fun row =>
        report.arrived - row.2.updated ≤ cache.lifetime)
    exact Nat.le_trans half (Nat.div_le_self _ _)
  next stays => exact Nat.le_of_not_lt fun large => stays ((lists.overflows_iff report).mpr large)

/-! ## Guarantees -/

/-- What an eviction makes of a cache that has grown by a report. -/
structure Evicted (grown after : Cache) (now : Instant) (limit lifetime : Nat) : Prop where
  remains : 1 ≤ after.size
  half : after.size ≤ limit / 2
  /-- Nothing that is left is older than the lifetime. -/
  young : ∀ (destination : Address) (entry : Entry), after.entries[destination]? = some entry →
    now ≤ entry.updated + lifetime
  /-- Everything that is left came later than everything that is gone. -/
  newer : ∀ (left gone : Address) (leftEntry goneEntry : Entry),
    after.entries[left]? = some leftEntry → grown.entries[gone]? = some goneEntry →
    after.entries[gone]? = none → goneEntry.stamp < leftEntry.stamp

/-- What a report makes of a cache to which some reports have led. -/
structure Retains (reports : List Feedback) (report : Feedback) (before after : Cache)
    (limit lifetime : Nat) : Prop where
  size_le : after.size ≤ limit
  /-- The report is found with its MTU, raised to the floor of the family. -/
  found : after.entries[report.destination]? =
    some ⟨max report.mtu (floor report.destination.family), report.arrived, reports.length⟩
  lookup : after.lookup report.destination =
    max report.mtu (floor report.destination.family)
  /-- The stamp of an entry is the position of the last report on its destination. -/
  stems : ∀ (destination : Address) (entry : Entry),
    (before.note report).entries[destination]? = some entry →
      entry.StemsFrom (reports ++ [report]) destination
  /-- Another destination keeps its entry, or it loses it in an eviction. -/
  others : ∀ destination, destination ≠ report.destination →
    after.entries[destination]? = before.entries[destination]? ∧
        after.lookup destination = before.lookup destination ∨
      before.Overflows report ∧ after.entries[destination]? = none ∧
        after.lookup destination = defaultMtu
  evicted : before.Overflows report →
    (before.note report).Evicted after report.arrived limit lifetime

theorem lookup_of_none {destination : Address} (missing : cache.entries[destination]? = none) :
    cache.lookup destination = defaultMtu := by
  rw [Cache.lookup, missing]

/-- Another destination keeps its entry, or it loses it in an eviction. -/
theorem entries_learn_of_ne {report : Feedback} {destination : Address}
    (other : destination ≠ report.destination) :
    (cache.learn report).entries[destination]? = cache.entries[destination]? ∨
      cache.Overflows report ∧ (cache.learn report).entries[destination]? = none := by
  cases kept : (cache.learn report).entries[destination]? with
  | some entry =>
      rcases entries_note_iff.mp (entries_note_of_learn kept) with ⟨same, _⟩ | ⟨_, before⟩
      · exact absurd same other
      · exact .inl before.symm
  | none =>
      by_cases overflows : cache.Overflows report
      · exact .inr ⟨overflows, rfl⟩
      · rw [learn_eq, if_neg overflows] at kept
        refine .inl ?_
        cases before : cache.entries[destination]? with
        | none => rfl
        | some entry =>
            cases kept.symm.trans (entries_note_iff.mpr (.inr ⟨other, before⟩))

theorem Lists.evicted (lists : cache.Lists rows) (room : 2 ≤ cache.maxEntries)
    {report : Feedback} (overflows : cache.Overflows report) :
    (cache.note report).Evicted (cache.learn report) report.arrived cache.maxEntries
      cache.lifetime := by
  have learned := lists.learn report
  have cut : cache.learnedRows report rows =
      cache.keptRows report.arrived (cache.notedRows report rows) := if_pos overflows
  refine ⟨?_, ?_, fun destination entry kept => ?_, ?_⟩
  · rw [learned.size]
    exact List.length_pos_of_mem (front_mem_learnedRows room report rows)
  · rw [learned.size, cut, keptRows]
    exact List.length_take_le _ _
  · have row := (learned.found destination entry).mp kept
    rw [cut, keptRows] at row
    have age := List.all_eq_true.mp List.all_takeWhile _ (List.mem_of_mem_take row)
    exact Nat.sub_le_iff_le_add'.mp (of_decide_eq_true age)
  · intro left gone leftEntry goneEntry kept before missing
    refine (lists.note report).stamp_lt (learnedRows_initial cache report rows)
      ((learned.found left leftEntry).mp kept)
      (((lists.note report).found gone goneEntry).mp before) fun stays => ?_
    cases missing.symm.trans ((learned.found gone goneEntry).mpr stays)

theorem retains_learn {reports : List Feedback} (lists : cache.Lists rows)
    (dated : cache.Dated reports) (room : 2 ≤ cache.maxEntries) (report : Feedback) :
    Retains reports report cache (cache.learn report) cache.maxEntries cache.lifetime := by
  have learned := lists.learn report
  have found := (learned.found report.destination (cache.entryFor report)).mpr
    (front_mem_learnedRows room report rows)
  refine ⟨?_, ?_, ?_, (dated.note report).stems, fun destination other => ?_, lists.evicted room⟩
  · rw [learned.size]
    exact length_learnedRows_le lists report
  · rw [found, entryFor, dated.next]
    rfl
  · rw [Cache.lookup, found]
    rfl
  · rcases entries_learn_of_ne other with same | ⟨overflows, missing⟩
    · exact .inl ⟨same, by rw [Cache.lookup, Cache.lookup, same]⟩
    · exact .inr ⟨overflows, missing, lookup_of_none missing⟩

/-- **What was just reported is kept, and only what is older than everything that is left is
forgotten**, for every course of reports. -/
theorem retains (maxEntries lifetime : Nat) (reports : List Feedback) :
    (after maxEntries lifetime reports).size ≤ max maxEntries 2 ∧
      ∀ report, Retains reports report (after maxEntries lifetime reports)
        (after maxEntries lifetime (reports ++ [report])) (max maxEntries 2) lifetime := by
  have taken : ∀ earlier report, Retains earlier report (after maxEntries lifetime earlier)
      (after maxEntries lifetime (earlier ++ [report])) (max maxEntries 2) lifetime := by
    intro earlier report
    obtain ⟨rows, lists, _⟩ := exists_lists maxEntries lifetime earlier
    obtain ⟨limit, age⟩ := limits_after maxEntries lifetime earlier
    have step := retains_learn lists (dated_after maxEntries lifetime earlier)
      (by rw [limit]; exact Nat.le_max_right _ _) report
    rw [limit, age] at step
    rw [after_concat]
    exact step
  refine ⟨?_, taken reports⟩
  induction reports using List.reverseRecOn with
  | nil => exact Nat.zero_le _
  | append_singleton reports report _ => exact (taken reports report).size_le

end Cache

end FamilyGateway.PathMtu
