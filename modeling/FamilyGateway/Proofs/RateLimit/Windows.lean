import FamilyGateway.RateLimit
import Mathlib.Data.List.Count

/-!
# How much a limiter grants, and when it refuses

A window opens when it is needed and never before the last one is over, so the windows of a
limiter open at least a window's length apart. Between two times there are as many of them as
lengths fit in between, one more for the first of them, and one more that was open already.
Each of them has room for the limit, which bounds the slots that are taken between the two
times (`Limiter.Accounts.countP_le`).

A request is refused only if the current window is full. What was taken in it was taken
less than a window's length ago (`Limiter.Accounts.refused`).

Both hold as long as the clock does not go backwards, because of what a limiter and the slots
that were taken from it have to do with each other (`Limiter.Ledger`).
-/

set_option autoImplicit false

namespace FamilyGateway.RateLimit

theorem window_pos : 0 < window := by decide

/-- Where a window's length lies in between, there is room for one more window. -/
theorem succ_div_window_le {window since start now : Nat} (positive : 0 < window)
    (ended : window ≤ now - start) (before : since ≤ start) :
    (start - since) / window + 1 ≤ (now - since) / window := by
  have later : start - since + window ≤ now - since := by omega
  rw [← Nat.add_div_right _ positive]
  exact Nat.div_le_div_right later

theorem lt_add_window {window start now : Nat} (inside : ¬ window ≤ now - start) :
    now < start + window := by
  omega

namespace Limiter

variable {limiter : Limiter} {slots older current : List Instant} {start latest now : Instant}
  {window limit : Nat}

/-! ## The slots of a limiter -/

/-- The slots of a limiter whose current window opened at `start`: those of older windows and those
of the current one. -/
structure Window (window limit : Nat) (older current : List Instant) (start latest : Instant) :
    Prop where
  begun : start ≤ latest
  room : current.length ≤ limit
  past : ∀ slot ∈ older, slot ≤ start
  recent : ∀ slot ∈ current, start ≤ slot ∧ slot ≤ latest
  /-- The older windows opened a window's length apart, the last of them before this one. -/
  spaced : ∀ since ≤ start,
    older.countP (since ≤ ·) ≤ limit * ((start - since) / window + 1)

/-- What a limiter has to do with the slots that were taken from it. Its windows take some time. -/
inductive Ledger : Limiter → List Instant → List Instant → Instant → Prop where
  | unopened {window : Nat} (positive : 0 < window) (limit : Nat) (latest : Instant) :
      Ledger ⟨none, 0, limit, window⟩ [] [] latest
  | opened {window limit : Nat} {older current : List Instant} {start latest : Instant}
      (positive : 0 < window) (slots : Window window limit older current start latest) :
      Ledger ⟨some start, current.length, limit, window⟩ older current latest

namespace Window

theorem later (slots : Window window limit older current start latest) (after : latest ≤ now) :
    Window window limit older current start now :=
  ⟨Nat.le_trans slots.begun after, slots.room, slots.past,
    fun slot member => ⟨(slots.recent slot member).1,
      Nat.le_trans (slots.recent slot member).2 after⟩, slots.spaced⟩

/-- Since the window opened only its own slots were taken. -/
theorem countP_le_of_lt (slots : Window window limit older current start latest) {since : Instant}
    (inside : start < since) : (older ++ current).countP (since ≤ ·) ≤ limit := by
  have none : older.countP (since ≤ ·) = 0 := by
    refine List.countP_eq_zero.mpr ?_
    intro slot member reaches
    have late : start < slot := Nat.lt_of_lt_of_le inside (of_decide_eq_true reaches)
    exact Nat.not_lt_of_le (slots.past slot member) late
  rw [List.countP_append, none, Nat.zero_add]
  exact Nat.le_trans List.countP_le_length slots.room

/-- Before it opened there was room for what fits into the windows in between. -/
theorem countP_le_of_le (slots : Window window limit older current start latest) {since : Instant}
    (before : since ≤ start) :
    (older ++ current).countP (since ≤ ·) ≤ limit * ((start - since) / window + 2) := by
  have past := slots.spaced since before
  have recent := Nat.le_trans (List.countP_le_length (p := (since ≤ ·))) slots.room
  rw [List.countP_append, show (start - since) / window + 2 = (start - since) / window + 1 + 1
    from rfl, Nat.mul_succ]
  exact Nat.add_le_add past recent

/-- The slots since some time fit into some windows if as many open since then. -/
theorem countP_le (slots : Window window limit older current start latest) {since : Instant}
    {windows : Nat} (one : 0 < windows)
    (enough : since ≤ start → (start - since) / window + 2 ≤ windows) :
    (older ++ current).countP (since ≤ ·) ≤ limit * windows := by
  by_cases before : since ≤ start
  · exact Nat.le_trans (slots.countP_le_of_le before) (Nat.mul_le_mul_left limit (enough before))
  · exact Nat.le_trans (slots.countP_le_of_lt (Nat.lt_of_not_le before))
      (Nat.le_mul_of_pos_right limit one)

/-- A window that opens after another is over has no slots yet, and all others are older. -/
theorem reopen (slots : Window window limit older current start latest) (positive : 0 < window)
    (after : latest ≤ now) (ended : window ≤ now - start) :
    Window window limit (older ++ current) [] now now := by
  refine ⟨Nat.le_refl now, Nat.zero_le limit, ?_, List.forall_mem_nil _, ?_⟩
  · intro slot member
    rcases List.mem_append.mp member with past | recent
    · exact Nat.le_trans (slots.past slot past) (Nat.le_trans slots.begun after)
    · exact Nat.le_trans (slots.recent slot recent).2 after
  · intro since _
    refine slots.countP_le (Nat.succ_pos _) ?_
    intro before
    exact Nat.succ_le_succ (succ_div_window_le positive ended before)

/-- A slot is taken while there is room. -/
theorem take (slots : Window window limit older current start now) (free : current.length < limit) :
    Window window limit older (current ++ [now]) start now where
  begun := slots.begun
  room := by
    rw [List.length_append]
    exact free
  past := slots.past
  recent := List.forall_mem_append.mpr ⟨slots.recent,
    List.forall_mem_singleton.mpr ⟨slots.begun, Nat.le_refl now⟩⟩
  spaced := slots.spaced

end Window

/-- The window that is open once a limiter is refreshed. -/
theorem Ledger.refresh (ledger : limiter.Ledger older current latest) (after : latest ≤ now) :
    ∃ start previous recent, previous ++ recent = older ++ current ∧
      limiter.refresh now = ⟨some start, recent.length, limiter.limit, limiter.window⟩ ∧
      0 < limiter.window ∧ now < start + limiter.window ∧
      Window limiter.window limiter.limit previous recent start now := by
  cases ledger with
  | unopened positive limit latest =>
      refine ⟨now, [], [], rfl, rfl, positive, Nat.lt_add_of_pos_right positive, Nat.le_refl now,
        Nat.zero_le limit, List.forall_mem_nil _, List.forall_mem_nil _, fun _ _ => ?_⟩
      exact Nat.zero_le _
  | @opened window limit _ _ start latest positive slots =>
      by_cases ended : window ≤ now - start
      · have fresh : (⟨some start, current.length, limit, window⟩ : Limiter).refresh now =
            ⟨some now, 0, limit, window⟩ := if_pos (decide_eq_true ended)
        exact ⟨now, older ++ current, [], List.append_nil _, fresh, positive,
          Nat.lt_add_of_pos_right positive, slots.reopen positive after ended⟩
      · have same : (⟨some start, current.length, limit, window⟩ : Limiter).refresh now =
            ⟨some start, current.length, limit, window⟩ :=
          if_neg fun expired => ended (of_decide_eq_true expired)
        exact ⟨start, older, current, rfl, same, positive, lt_add_window ended,
          slots.later after⟩

/-! ## Accounts -/

/-- These slots were taken from the limiter, in this order. -/
def Accounts (limiter : Limiter) (slots : List Instant) (latest : Instant) : Prop :=
  ∃ older current, slots = older ++ current ∧ limiter.Ledger older current latest

/-- What a request leaves as it is. -/
theorem limits_acquire (limiter : Limiter) (now : Instant) :
    (limiter.acquire now).2.limit = limiter.limit ∧
      (limiter.acquire now).2.window = limiter.window := by
  have same : (limiter.refresh now).limit = limiter.limit ∧
      (limiter.refresh now).window = limiter.window := by
    unfold refresh
    split <;> exact ⟨rfl, rfl⟩
  simp only [acquire]
  split
  next => exact same
  next => exact same

namespace Accounts

theorem every (positive : 0 < window) (limit : Nat) (latest : Instant) :
    (Limiter.every window limit).Accounts [] latest :=
  ⟨[], [], rfl, .unopened positive limit latest⟩

theorem later (accounts : limiter.Accounts slots latest) (after : latest ≤ now) :
    limiter.Accounts slots now := by
  obtain ⟨older, current, rfl, ledger⟩ := accounts
  refine ⟨older, current, rfl, ?_⟩
  cases ledger with
  | unopened positive limit => exact .unopened positive limit now
  | opened positive slots => exact .opened positive (slots.later after)

/-- A request takes a slot if it is granted and none otherwise. -/
theorem acquire (accounts : limiter.Accounts slots latest) (after : latest ≤ now) :
    (limiter.acquire now).2.Accounts
      (slots ++ if (limiter.acquire now).1 then [now] else []) now := by
  obtain ⟨older, current, rfl, ledger⟩ := accounts
  obtain ⟨start, previous, recent, same, refreshed, positive, -, slots⟩ := ledger.refresh after
  rw [← same]
  unfold Limiter.acquire
  simp only [refreshed]
  by_cases free : recent.length < limiter.limit
  · refine ⟨previous, recent ++ [now], ?_, ?_⟩
    · rw [if_pos free, if_pos rfl, List.append_assoc]
    · have ledger := Ledger.opened positive (slots.take free)
      rw [List.length_append] at ledger
      rw [if_pos free]
      exact ledger
  · refine ⟨previous, recent, ?_, ?_⟩
    · rw [if_neg free, if_neg Bool.false_ne_true, List.append_nil]
    · rw [if_neg free]
      exact .opened positive slots

/-- How many slots are taken since some time. -/
theorem countP_le (accounts : limiter.Accounts slots latest) (since : Instant) :
    slots.countP (since ≤ ·) ≤ limiter.limit * ((latest - since) / limiter.window + 2) := by
  obtain ⟨older, current, rfl, ledger⟩ := accounts
  cases ledger with
  | unopened => exact Nat.zero_le _
  | opened positive slots =>
      refine slots.countP_le (Nat.succ_pos _) ?_
      intro _
      exact Nat.succ_le_succ (Nat.succ_le_succ
        (Nat.div_le_div_right (Nat.sub_le_sub_right slots.begun since)))

/-- A request is refused only if all slots were taken in less than a window's length. -/
theorem refused (accounts : limiter.Accounts slots latest) (after : latest ≤ now)
    (refusal : (limiter.acquire now).1 = false) :
    ∃ previous recent, slots = previous ++ recent ∧ limiter.limit ≤ recent.length ∧
      ∀ slot ∈ recent, slot ≤ now ∧ now < slot + limiter.window := by
  obtain ⟨older, current, rfl, ledger⟩ := accounts
  obtain ⟨start, previous, recent, same, refreshed, -, open_, slots⟩ := ledger.refresh after
  refine ⟨previous, recent, same.symm, ?_, fun slot member => ?_⟩
  · refine Nat.le_of_not_lt fun free => ?_
    unfold Limiter.acquire at refusal
    simp only [refreshed, if_pos free] at refusal
    cases refusal
  · obtain ⟨inside, past⟩ := slots.recent slot member
    exact ⟨past, Nat.lt_of_lt_of_le open_ (Nat.add_le_add_right inside _)⟩

end Accounts

end Limiter

end FamilyGateway.RateLimit
