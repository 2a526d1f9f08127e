import FamilyGateway.Proofs.RateLimit.Windows
import FamilyGateway.Proofs.Translator.Encounters

/-!
# Notices over the life of a translator

A translator treats packets of both families, is told path MTUs and is given tables
(`Translator.Course`). The slots that its packets take of the limiter for senders of a family
are the accounts of the limiter (`Translator.Course.taken`), whatever happens to packets of the
other family. As long as the clock does not go backwards there are not more notices between two
times than windows have room for, and no notice is missing without need
(`Translator.notices_rate_limited`).
-/

set_option autoImplicit false

namespace FamilyGateway

namespace Translator

/-! ## The life of a translator -/

/-- What may happen to a translator: these packets are treated, in this order, and in between path
MTUs are reported and tables are loaded. -/
inductive Course (start : Translator) : List Encounter → Translator → Prop where
  | start : Course start [] start
  | packet {treated : List Encounter} {translator : Translator}
      (course : Course start treated translator) (surroundings : Surroundings)
      (family : Family) (packet : Bytes) :
      Course start (treated ++ [⟨translator, surroundings, family, packet⟩])
        (translator.step surroundings family packet).translator
  | feedback {treated : List Encounter} {translator : Translator}
      (course : Course start treated translator) (destination : Address) (mtu : UInt16)
      (now : Instant) :
      Course start treated
        { translator with pathMtu := translator.pathMtu.record destination mtu now }
  | reload {treated : List Encounter} {translator : Translator}
      (course : Course start treated translator) (table : MappingTable) :
      Course start treated { translator with table := table }

namespace Course

variable {start translator : Translator} {treated earlier later : List Encounter}
  {encounter : Encounter}

theorem reachable (course : start.Course treated translator) (reached : start.Reachable) :
    translator.Reachable := by
  induction course with
  | start => exact reached
  | packet course surroundings family packet ih => exact .step ih surroundings family packet
  | feedback course destination mtu now ih => exact .feedback ih destination mtu now
  | reload course table ih => exact .reload ih table

/-- A packet meets the translator to which the packets before it have led. -/
theorem before (course : start.Course (earlier ++ encounter :: later) translator) :
    start.Course earlier encounter.translator := by
  generalize whole : earlier ++ encounter :: later = treated at course
  induction course generalizing later with
  | start => exact absurd whole (by simp)
  | packet course surroundings family packet ih =>
      rcases List.eq_nil_or_concat later with rfl | ⟨between, last, rfl⟩
      · obtain ⟨rfl, rfl⟩ := List.append_singleton_inj.mp whole
        exact course
      · rw [List.concat_eq_append, ← List.cons_append, ← List.append_assoc] at whole
        exact ih (List.append_singleton_inj.mp whole).1
  | feedback course destination mtu now ih => exact ih whole
  | reload course table ih => exact ih whole

end Course

/-- The slots that the packets of a course have taken of the limiter for senders of a family. -/
structure Taken (treated : List Encounter) (limiter : RateLimit.Limiter) (family : Family)
    (latest : Instant) (slots : List Encounter) : Prop where
  among : slots.Sublist treated
  taken : ∀ slot ∈ slots, slot.TakesSlot family
  accounts : limiter.Accounts (slots.map Encounter.now) latest
  /-- Since any time there are not more notices than slots. -/
  announced : ∀ since,
    ((treated.filter fun encounter => since ≤ encounter.now).flatMap
      (Encounter.notices · family)).length ≤ (slots.map Encounter.now).countP (since ≤ ·)

namespace Taken

variable {treated slots : List Encounter} {limiter : RateLimit.Limiter} {family : Family}
  {latest : Instant} {encounter : Encounter}

/-- A packet without notices adds none. -/
theorem leave (taken : Taken treated limiter family latest slots)
    (silent : encounter.notices family = []) :
    Taken (treated ++ [encounter]) limiter family latest slots where
  among := taken.among.trans (List.sublist_append_left _ _)
  taken := taken.taken
  accounts := taken.accounts
  announced since := by
    have none : (([encounter].filter fun encounter => since ≤ encounter.now).flatMap
        (Encounter.notices · family)) = [] := by
      rw [List.flatMap_eq_nil_iff]
      intro other member
      rw [List.mem_singleton.mp (List.mem_filter.mp member).1, silent]
    rw [List.filter_append, List.flatMap_append, none, List.append_nil]
    exact taken.announced since

/-- A packet that takes a slot adds one notice at most. -/
theorem take (taken : Taken treated limiter family latest slots)
    (slot : encounter.TakesSlot family) (atMostOne : (encounter.notices family).length ≤ 1)
    {next : RateLimit.Limiter}
    (accounts : next.Accounts ((slots ++ [encounter]).map Encounter.now) encounter.now) :
    Taken (treated ++ [encounter]) next family encounter.now (slots ++ [encounter]) where
  among := taken.among.append (List.Sublist.refl _)
  taken := List.forall_mem_append.mpr ⟨taken.taken, List.forall_mem_singleton.mpr slot⟩
  accounts := accounts
  announced since := by
    rw [List.filter_append, List.flatMap_append, List.length_append, List.map_append,
      List.countP_append]
    refine Nat.add_le_add (taken.announced since) ?_
    by_cases late : since ≤ encounter.now
    · simpa [late] using atMostOne
    · simp [late]

theorem later (taken : Taken treated limiter family latest slots) {now : Instant}
    (after : latest ≤ now) : Taken treated limiter family now slots :=
  { taken with accounts := taken.accounts.later after }

/-- A packet that takes a slot is counted, and every other one leaves the accounts as they are. -/
theorem step (encounter : Encounter)
    (taken : Taken treated (encounter.translator.limiter family) family encounter.now slots)
    (reached : encounter.translator.Reachable) :
    ∃ slots, Taken (treated ++ [encounter]) (encounter.step.translator.limiter family) family
      encounter.now slots := by
  rcases encounter.asks_or_leaves reached family with asks | leaves
  · have accounts := taken.accounts.acquire (Nat.le_refl encounter.now)
    rw [← asks.next] at accounts
    cases granted : ((encounter.translator.limiter family).acquire encounter.now).1 with
    | true =>
        rw [granted, if_pos rfl] at accounts
        refine ⟨slots ++ [encounter], taken.take ⟨asks.cut, granted⟩ asks.atMostOne ?_⟩
        rw [List.map_append]
        exact accounts
    | false =>
        rw [granted, if_neg Bool.false_ne_true, List.append_nil] at accounts
        exact ⟨slots, { taken.leave (asks.refused granted) with accounts := accounts }⟩
  · rw [leaves.next]
    exact ⟨slots, taken.leave leaves.silent⟩

end Taken

namespace Course

variable {translator : Translator} {treated earlier later : List Encounter}
  {encounter : Encounter} {maxEntries lifetime window limit : Nat}

/-- What a limiter may grant stays what it is. -/
theorem limits_limiter
    (course : Course (.opening (.empty maxEntries lifetime) window limit) treated translator)
    (family : Family) : (translator.limiter family).limit = limit ∧
      (translator.limiter family).window = window := by
  induction course with
  | start => cases family <;> exact ⟨rfl, rfl⟩
  | @packet _ translator course surroundings arrived packet ih =>
      have reached := course.reachable (.opening maxEntries lifetime window limit)
      rcases Encounter.asks_or_leaves ⟨translator, surroundings, arrived, packet⟩ reached family
        with asks | leaves
      · have next : (translator.step surroundings arrived packet).translator.limiter family =
            ((translator.limiter family).acquire surroundings.now).2 := asks.next
        rw [next, (RateLimit.Limiter.limits_acquire _ _).1,
          (RateLimit.Limiter.limits_acquire _ _).2]
        exact ih
      · have next : (translator.step surroundings arrived packet).translator.limiter family =
            translator.limiter family := leaves.next
        rw [next]
        exact ih
  | feedback course destination mtu now ih => cases family <;> exact ih
  | reload course table ih => cases family <;> exact ih

/-- **The slots that are taken over a course are the accounts of the limiter.** -/
theorem taken
    (course : Course (.opening (.empty maxEntries lifetime) window limit) treated translator)
    (positive : 0 < window)
    (clock : treated.Pairwise fun earlier later => earlier.now ≤ later.now) (family : Family)
    {latest : Instant} (past : ∀ encounter ∈ treated, encounter.now ≤ latest) :
    ∃ slots, Taken treated (translator.limiter family) family latest slots := by
  induction course generalizing latest with
  | start =>
      refine ⟨[], .refl _, List.forall_mem_nil _, ?_, fun since => Nat.zero_le _⟩
      cases family <;> exact .every positive limit latest
  | packet course surroundings arrived packet ih =>
      obtain ⟨clock, _, following⟩ := List.pairwise_append.mp clock
      obtain ⟨before, now⟩ := List.forall_mem_append.mp past
      obtain ⟨slots, taken⟩ := ih clock fun encounter member =>
        following encounter member _ (List.mem_singleton_self _)
      obtain ⟨more, counted⟩ := Taken.step ⟨_, surroundings, arrived, packet⟩ taken
        (course.reachable (.opening maxEntries lifetime window limit))
      exact ⟨more, counted.later (now _ (List.mem_singleton_self _))⟩
  | feedback course destination mtu now ih =>
      obtain ⟨slots, taken⟩ := ih clock past
      refine ⟨slots, ?_⟩
      cases family <;> exact taken
  | reload course table ih =>
      obtain ⟨slots, taken⟩ := ih clock past
      refine ⟨slots, ?_⟩
      cases family <;> exact taken

/-- Up to its end a course has not more notices than there is room for in the windows. -/
theorem length_notices_le_of_past
    (course : Course (.opening (.empty maxEntries lifetime) window limit) treated translator)
    (positive : 0 < window)
    (clock : treated.Pairwise fun earlier later => earlier.now ≤ later.now) (family : Family)
    (since : Instant) {upTo : Instant} (past : ∀ encounter ∈ treated, encounter.now ≤ upTo) :
    ((treated.filter fun encounter => since ≤ encounter.now ∧ encounter.now ≤ upTo).flatMap
      (Encounter.notices · family)).length ≤
        limit * ((upTo - since) / window + 2) := by
  obtain ⟨slots, taken⟩ := course.taken positive clock family past
  have bound := taken.accounts.countP_le since
  rw [(course.limits_limiter family).1, (course.limits_limiter family).2] at bound
  have same : (treated.filter fun encounter => since ≤ encounter.now ∧ encounter.now ≤ upTo) =
      treated.filter fun encounter => since ≤ encounter.now := by
    refine List.filter_congr ?_
    intro encounter member
    simp only [past encounter member, and_true]
  rw [same]
  exact Nat.le_trans (taken.announced since) bound

/-- Between two times a course has not more notices than there is room for in the windows. -/
theorem length_notices_le
    (course : Course (.opening (.empty maxEntries lifetime) window limit) treated translator)
    (positive : 0 < window)
    (clock : treated.Pairwise fun earlier later => earlier.now ≤ later.now) (family : Family)
    (since upTo : Instant) :
    ((treated.filter fun encounter => since ≤ encounter.now ∧ encounter.now ≤ upTo).flatMap
      (Encounter.notices · family)).length ≤
        limit * ((upTo - since) / window + 2) := by
  induction course with
  | start => exact Nat.zero_le _
  | @packet treated translator course surroundings arrived packet ih =>
      obtain ⟨earlier, _, following⟩ := List.pairwise_append.mp clock
      by_cases within : surroundings.now ≤ upTo
      · refine length_notices_le_of_past (course.packet surroundings arrived packet) positive
          clock family since (List.forall_mem_append.mpr ⟨?_, List.forall_mem_singleton.mpr within⟩)
        intro encounter member
        exact Nat.le_trans (following encounter member _ (List.mem_singleton_self _)) within
      · rw [List.filter_append, List.filter_cons_of_neg, List.filter_nil, List.append_nil]
        · exact ih earlier
        · intro inside
          exact within (of_decide_eq_true inside).2
  | feedback course destination mtu now ih => exact ih clock
  | reload course table ih => exact ih clock

/-- A packet that is cut and could be announced is not only if all slots were taken a short time
before. -/
theorem exists_slots_of_silent
    (course : Course (.opening (.empty maxEntries lifetime) window limit)
      (earlier ++ encounter :: later) translator)
    (positive : 0 < window) (clock : (earlier ++ encounter :: later).Pairwise fun earlier later =>
      earlier.now ≤ later.now) {family : Family} (cut : encounter.IsCut family)
    (silent : encounter.notices family = []) (answered : encounter.IsAnswered) :
    encounter.FindsSpent family window limit earlier := by
  have course := course.before
  obtain ⟨clock, _, following⟩ := List.pairwise_append.mp clock
  obtain ⟨slots, taken⟩ := course.taken positive clock family fun other member =>
    following other member _ List.mem_cons_self
  have refused : ((encounter.translator.limiter family).acquire encounter.now).1 = false := by
    have reached := course.reachable (.opening maxEntries lifetime window limit)
    rcases encounter.asks_or_leaves reached family with asks | leaves
    · refine Bool.eq_false_iff.mpr ?_
      intro granted
      exact asks.granted granted answered silent
    · exact absurd cut leaves.whole
  obtain ⟨previous, recent, split, full, times⟩ :=
    taken.accounts.refused (Nat.le_refl encounter.now) refused
  obtain ⟨old, young, rfl, rfl, rfl⟩ := List.map_eq_append_iff.mp split
  rw [(course.limits_limiter family).1, List.length_map] at full
  rw [(course.limits_limiter family).2] at times
  refine ⟨young, (List.sublist_append_right _ _).trans taken.among, full, ?_⟩
  intro slot member
  exact ⟨taken.taken slot (List.mem_append_right _ member),
    times slot.now (List.mem_map_of_mem member)⟩

end Course

/-- A packet for which anything is sent leaves the cache as it is. -/
theorem pathMtu_step_of_ne_nil {translator : Translator} {surroundings : Surroundings}
    {family : Family} {packet : Bytes} {packets : List OutboundPacket}
    (accepted : (translator.step surroundings family packet).result = .ok packets)
    (forwarded : packets ≠ []) :
    (translator.step surroundings family packet).translator.pathMtu = translator.pathMtu := by
  rcases translator.step_cases surroundings family packet with
    ⟨_, _, same⟩ | ⟨plan, _, result, changes⟩
  · rw [same]
  · by_contra changed
    obtain ⟨report, rfl⟩ := changes.pathMtu changed
    cases accepted.symm.trans result
    exact forwarded rfl

end Translator

/-! ## Two packets and one slot -/

namespace Sample

open Translator (Encounter Course)

/-- The packet meets a translator. -/
def meets (current : Translator) : Encounter :=
  ⟨current, answering, .inet6, wholePacket (List.replicate 56 0)⟩

/-- The packet is cut for a path that takes the least over IPv4, and leaves what is known about it
as it is. -/
theorem isCut_meets (current : Translator) (same : current.table = translator.table)
    (known : current.pathMtu.lookup (.v4 remote) = 68) :
    (meets current).IsCut .inet6 ∧ (meets current).IsAnswered ∧
      (meets current).step.translator.table = translator.table ∧
      (meets current).step.translator.pathMtu.lookup (.v4 remote) = 68 := by
  obtain ⟨view, packets, read, _, _, accepted, forwards⟩ := forwards_wholePacket_of same
  have sent : (meets current).sent = packets := by
    rw [Encounter.sent, Encounter.step, meets, accepted]
    rfl
  have shown := congrArg List.length forwards.shown
  rw [List.length_map, List.length_map] at shown
  refine ⟨⟨view, _, read, forwards.leads, ?_⟩, ⟨view, read, ?_⟩, ?_, ?_⟩
  · rw [sent]
    refine Nat.lt_of_lt_of_eq ?_ shown.symm
    have room : Way.roomFor? 68 (List.replicate 56 (0 : UInt8)).length .sixToFour = some 48 := by
      decide
    simp only [known, PacketView.sent, room, List.length_map]
    exact Piece.one_lt_length_cut 0 (by decide)
  · obtain ⟨datagram, _, rfl⟩ := PacketView.read?_inet6 read
    rfl
  · exact (current.table_step answering .inet6 _).trans same
  · rw [← known]
    exact congrArg (PathMtu.Cache.lookup · (.v4 remote))
      (Translator.pathMtu_step_of_ne_nil accepted forwards.ne_nil)

end Sample

namespace Translator

/-- **Notices are limited, and none is missing without need.** Over every course that begins with a
new translator, on a clock that does not go backwards, there are between two times at most as
many notices to senders of a family as the windows that fit in between, and two more, have room
for. A packet of the family that is cut and could be announced is not announced only if as many
slots as there are were taken less than a window's length before, up to then. -/
theorem notices_rate_limited {maxEntries lifetime window limit : Nat} {treated : List Encounter}
    {translator : Translator}
    (course : Course (.opening (.empty maxEntries lifetime) window limit) treated translator)
    (positive : 0 < window)
    (clock : treated.Pairwise fun earlier later => earlier.now ≤ later.now) (family : Family) :
    (∀ since upTo,
      ((treated.filter fun encounter => since ≤ encounter.now ∧ encounter.now ≤ upTo).flatMap
        (Encounter.notices · family)).length ≤
          limit * ((upTo - since) / window + 2)) ∧
      ∀ earlier encounter later, treated = earlier ++ encounter :: later →
        encounter.IsCut family → encounter.notices family = [] → encounter.IsAnswered →
        encounter.FindsSpent family window limit earlier := by
  refine ⟨course.length_notices_le positive clock family, ?_⟩
  rintro earlier encounter later rfl cut silent answered
  exact course.exists_slots_of_silent positive clock cut silent answered

theorem notices_rate_limited_spent :
    ∃ first second translator,
      Course (.fresh (.empty PathMtu.defaultMaxEntries PathMtu.defaultLifetime) 1)
        [first, second] translator ∧
      [first, second].Pairwise (fun earlier later => earlier.now ≤ later.now) ∧
      second.IsCut .inet6 ∧ second.notices .inet6 = [] ∧ second.IsAnswered ∧
      second.FindsSpent .inet6 RateLimit.window 1 [first] := by
  let strict : Translator := { Sample.translator with
    needFragLimiter := .fresh 1
    tooBigLimiter := .fresh 1 }
  let first := Sample.meets strict
  let second := Sample.meets first.step.translator
  have reached : strict.Reachable :=
    .reload (.feedback (.fresh PathMtu.defaultMaxEntries PathMtu.defaultLifetime 1)
      (.v4 Sample.remote) 68 0) Sample.translator.table
  have opens : Course (.fresh (.empty PathMtu.defaultMaxEntries PathMtu.defaultLifetime) 1) []
      strict := .reload (.feedback .start (.v4 Sample.remote) 68 0) Sample.translator.table
  have course := (opens.packet Sample.answering .inet6 first.packet).packet Sample.answering
    .inet6 second.packet
  have clock : [first, second].Pairwise fun earlier later => earlier.now ≤ later.now :=
    List.pairwise_pair.mpr (Nat.le_refl 0)
  obtain ⟨cut, _, table, known⟩ := Sample.isCut_meets strict rfl Sample.lookup_remote
  obtain ⟨again, answered, _, _⟩ := Sample.isCut_meets _ table known
  have silent : second.notices .inet6 = [] := by
    rcases first.asks_or_leaves reached .inet6 with asks | leaves
    · rcases second.asks_or_leaves (.step reached _ _ _) .inet6 with asked | left
      · have counted : second.translator.limiter .inet6 =
            ⟨some 0, 1, 1, RateLimit.window⟩ := asks.next
        refine asked.refused ?_
        rw [counted]
        rfl
      · exact left.silent
    · exact absurd cut leaves.whole
  exact ⟨first, second, _, course, clock, again, silent, answered,
    (notices_rate_limited course RateLimit.window_pos clock .inet6).2 [first] second [] rfl again
      silent answered⟩

end Translator

end FamilyGateway
