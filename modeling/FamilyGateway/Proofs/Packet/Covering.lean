import FamilyGateway.Proofs.Packet.View
import FamilyGateway.Translator.Fragmentation

/-!
# Packets that make up a datagram

Packets that carry the parts of a datagram, or of a part of one, follow each other
without gap or overlap, say of all but the last that more fragments follow, and
break the datagram at multiples of eight. `Covers` describes such packets one after
the other, and the pieces into which a payload is cut are of this shape
(`covers_cut`).

A receiver gets the packets in any order, sorts them by offset and joins their
payloads (`reassemble`). Since the offsets of covering packets grow strictly, it
gets back the bytes that they cover (`Covers.reassemble_of_perm`).

If packets cover a datagram, and each of them is replaced by packets that carry as many
bytes in its place, then the replacements cover a datagram (`Covers.refine`).
-/

set_option autoImplicit false

namespace FamilyGateway

/-- The packets, in this order, carry the bytes of a datagram from `offset` on. The last one says
that more fragments follow exactly if `more` does. -/
inductive Covers (more : Bool) : Nat → List PacketView → Bytes → Prop where
  | last {offset : Nat} (view : PacketView) (placed : view.offset = offset)
      (flag : view.moreFragments = more) : Covers more offset [view] view.payload
  | cons {offset : Nat} {rest : List PacketView} {bytes : Bytes} (view : PacketView)
      (placed : view.offset = offset) (flag : view.moreFragments = true)
      (carries : view.payload ≠ []) (aligned : view.payload.length % 8 = 0)
      (remains : bytes ≠ [])
      (later : Covers more (offset + view.payload.length) rest bytes) :
      Covers more offset (view :: rest) (view.payload ++ bytes)

/-- What a receiver makes of the packets of a datagram, in whatever order they arrived. -/
def reassemble (views : List PacketView) : Bytes :=
  ((views.mergeSort fun left right => left.offset ≤ right.offset).map PacketView.payload).flatten

namespace Covers

variable {more : Bool} {offset : Nat} {views : List PacketView} {bytes : Bytes}

/-! ## What the packets are like -/

theorem ne_nil (covers : Covers more offset views bytes) : views ≠ [] := by
  cases covers <;> exact List.cons_ne_nil _ _

/-- The payloads in order are the bytes. -/
theorem joined (covers : Covers more offset views bytes) :
    (views.map PacketView.payload).flatten = bytes := by
  induction covers with
  | last view placed flag => simp
  | cons view placed flag carries aligned remains later ih =>
      rw [List.map_cons, List.flatten_cons, ih]

/-- A packet stands behind all the bytes before it. -/
theorem offset_getElem (covers : Covers more offset views bytes) (index : Nat)
    (inside : index < views.length) :
    views[index].offset =
      offset + ((views.take index).map PacketView.payload).flatten.length := by
  induction covers generalizing index with
  | last view placed flag =>
      obtain rfl : index = 0 := by simpa using inside
      simpa using placed
  | cons view placed flag carries aligned remains later ih =>
      cases index with
      | zero => simpa using placed
      | succ index =>
          have inner := ih index (by simpa using inside)
          simp only [List.getElem_cons_succ, List.take_succ_cons, List.map_cons,
            List.flatten_cons, List.length_append]
          omega

/-- All packets but the last say that more fragments follow. -/
theorem moreFragments_getElem (covers : Covers more offset views bytes) (index : Nat)
    (inside : index < views.length) :
    views[index].moreFragments = if index + 1 = views.length then more else true := by
  induction covers generalizing index with
  | last view placed flag =>
      obtain rfl : index = 0 := by simpa using inside
      simpa using flag
  | @cons offset rest bytes view placed flag carries aligned remains later ih =>
      have notEmpty := List.length_pos_iff.mpr later.ne_nil
      cases index with
      | zero =>
          rw [if_neg (by simp only [List.length_cons]; omega)]
          exact flag
      | succ index =>
          simp only [List.getElem_cons_succ, List.length_cons, Nat.add_right_cancel_iff]
          exact ih index (by simpa using inside)

/-- All packets but the last carry a number of bytes that is a multiple of eight and not zero. -/
theorem aligned_getElem (covers : Covers more offset views bytes) (index : Nat)
    (inside : index < views.length) (notLast : index + 1 < views.length) :
    views[index].payload ≠ [] ∧ views[index].payload.length % 8 = 0 := by
  induction covers generalizing index with
  | last view placed flag => simp at notLast
  | cons view placed flag carries aligned remains later ih =>
      cases index with
      | zero => exact ⟨carries, aligned⟩
      | succ index => exact ih index (by simpa using inside) (by simpa using notLast)

/-- Offsets are multiples of eight if the first one is. -/
theorem offset_aligned (covers : Covers more offset views bytes) (first : offset % 8 = 0) :
    ∀ view ∈ views, view.offset % 8 = 0 := by
  induction covers with
  | last view placed flag =>
      intro other member
      rw [List.mem_singleton.mp member]
      omega
  | cons view placed flag carries aligned remains later ih =>
      intro other member
      rcases List.mem_cons.mp member with rfl | member
      · omega
      · exact ih (by omega) other member

/-- A packet lies between the ends. It carries something if there is anything to carry, and says
that more fragments follow unless it reaches the end. -/
theorem bounds (covers : Covers more offset views bytes) (remains : bytes ≠ []) :
    ∀ view ∈ views, offset ≤ view.offset ∧ view.payload ≠ [] ∧
      (view.offset + view.payload.length < offset + bytes.length ∧
          view.moreFragments = true ∨
        view.offset + view.payload.length = offset + bytes.length ∧
          view.moreFragments = more) := by
  induction covers with
  | last view placed flag =>
      intro other member
      obtain rfl := List.mem_singleton.mp member
      exact ⟨Nat.le_of_eq placed.symm, remains, .inr ⟨by omega, flag⟩⟩
  | @cons offset rest bytes view placed flag carries aligned later more ih =>
      have size := List.length_pos_iff.mpr later
      intro other member
      rw [List.length_append]
      rcases List.mem_cons.mp member with rfl | member
      · exact ⟨Nat.le_of_eq placed.symm, carries, .inl ⟨by omega, flag⟩⟩
      · obtain ⟨after, payload, reach⟩ := ih later other member
        refine ⟨by omega, payload, ?_⟩
        rcases reach with ⟨inside, flag⟩ | ⟨ending, flag⟩
        · exact .inl ⟨by omega, flag⟩
        · exact .inr ⟨by omega, flag⟩

theorem carries_of_several (covers : Covers more offset views bytes)
    (several : 2 ≤ views.length) : bytes ≠ [] := by
  cases covers with
  | last view placed flag => exact absurd several (Nat.not_succ_le_self 1)
  | cons view placed flag carries aligned remains later =>
      exact List.append_ne_nil_of_left_ne_nil carries _

/-- Of several packets that cover a datagram each is a fragment. -/
theorem isFragment (covers : Covers more 0 views bytes) (several : 2 ≤ views.length) :
    ∀ view ∈ views, view.isFragment = true := by
  cases covers with
  | last view placed flag => exact absurd several (Nat.not_succ_le_self 1)
  | cons view placed flag carries aligned remains later =>
      have size := List.length_pos_iff.mpr carries
      intro other member
      rw [PacketView.isFragment, Bool.or_eq_true, bne_iff_ne]
      rcases List.mem_cons.mp member with rfl | member
      · exact .inl flag
      · have after := (later.bounds remains other member).1
        exact .inr (by omega)

/-! ## Putting packets together -/

theorem pairwise (covers : Covers more offset views bytes) :
    views.Pairwise fun left right => left.offset < right.offset := by
  induction covers with
  | last view placed flag => exact List.pairwise_singleton _ _
  | cons view placed flag carries aligned remains later ih =>
      have size := List.length_pos_iff.mpr carries
      refine List.pairwise_cons.mpr ⟨fun other member => ?_, ih⟩
      have after := (later.bounds remains other member).1
      omega

/-- Packets at one place are one packet. -/
theorem eq_of_offset (covers : Covers more offset views bytes) {left right : PacketView}
    (leftMember : left ∈ views) (rightMember : right ∈ views)
    (same : left.offset = right.offset) : left = right := by
  have apart : views.Pairwise fun left right => left.offset = right.offset → left = right :=
    covers.pairwise.imp fun before same => absurd same (Nat.ne_of_lt before)
  have apart' : views.Pairwise
      (flip fun left right => left.offset = right.offset → left = right) :=
    covers.pairwise.imp fun before same => absurd same.symm (Nat.ne_of_lt before)
  exact List.Pairwise.forall_of_forall_of_flip (fun _ _ _ => rfl) apart apart'
    leftMember rightMember same

/-- Packets that cover some bytes are put together to these bytes in whatever order they
arrive. -/
theorem reassemble_of_perm (covers : Covers more offset views bytes) {arrived : List PacketView}
    (same : arrived.Perm views) : reassemble arrived = bytes := by
  have sortedArrived : (arrived.mergeSort fun left right => left.offset ≤ right.offset).Pairwise
      fun left right => left.offset ≤ right.offset := by
    refine (List.pairwise_mergeSort ?_ ?_ arrived).imp fun below => of_decide_eq_true below
    · intro a b c
      simp only [decide_eq_true_eq]
      omega
    · intro a b
      simp only [Bool.or_eq_true, decide_eq_true_eq]
      omega
  have sortedViews : views.Pairwise fun left right => left.offset ≤ right.offset :=
    covers.pairwise.imp Nat.le_of_lt
  have sorted : (arrived.mergeSort fun left right => left.offset ≤ right.offset) = views := by
    refine List.Perm.eq_of_pairwise ?_ sortedArrived sortedViews
      ((List.mergeSort_perm _ _).trans same)
    intro left right leftMember rightMember below above
    have leftMember := same.subset (List.mem_mergeSort.mp leftMember)
    exact covers.eq_of_offset leftMember rightMember (Nat.le_antisymm below above)
  rw [reassemble, sorted, covers.joined]

/-- Packets that cover some bytes, and packets that cover what follows. -/
theorem append {later : List PacketView} {tail : Bytes}
    (covers : Covers true offset views bytes) (carries : bytes ≠ [])
    (aligned : bytes.length % 8 = 0) (remains : tail ≠ [])
    (rest : Covers more (offset + bytes.length) later tail) :
    Covers more offset (views ++ later) (bytes ++ tail) := by
  induction covers with
  | last view placed flag => exact .cons view placed flag carries aligned remains rest
  | @cons offset views bytes view placed flag carries' aligned' remains' covers ih =>
      rw [List.length_append] at aligned rest
      rw [List.cons_append, List.append_assoc]
      refine .cons view placed flag carries' aligned' ?_
        (ih remains' (by omega) (by rwa [Nat.add_assoc]))
      exact List.append_ne_nil_of_left_ne_nil remains' tail

/-- Packets may be replaced one by one by packets that carry as many bytes in their place. -/
theorem refine {α : Type} {items : List α} {part : α → PacketView}
    {sent : α → List PacketView} {carried : α → Bytes}
    (covers : Covers more offset (items.map part) bytes) (carries : bytes ≠ [])
    (each : ∀ item ∈ items,
      Covers (part item).moreFragments (part item).offset (sent item) (carried item) ∧
        (carried item).length = (part item).payload.length) :
    Covers more offset (items.flatMap sent) (items.flatMap carried) ∧
      (items.flatMap carried).length = bytes.length := by
  induction items generalizing offset bytes with
  | nil => exact absurd rfl covers.ne_nil
  | cons item rest ih =>
      obtain ⟨first, length⟩ := each item List.mem_cons_self
      rw [List.map_cons] at covers
      generalize parts : rest.map part = others at covers
      rw [List.flatMap_cons, List.flatMap_cons, List.length_append]
      cases covers with
      | last view placed flag =>
          obtain rfl := List.map_eq_nil_iff.mp parts
          rw [placed, flag] at first
          simpa using ⟨first, length⟩
      | cons view placed flag carries' aligned remains later =>
          rw [← parts] at later
          obtain ⟨covered, size⟩ := ih later remains fun other member =>
            each other (List.mem_cons_of_mem item member)
          rw [placed, flag] at first
          have notEmpty := List.length_pos_iff.mpr carries'
          have others := List.length_pos_iff.mpr remains
          refine ⟨first.append ?_ (by omega) ?_ (by rw [length]; exact covered), ?_⟩
          · exact List.length_pos_iff.mp (by omega)
          · exact List.length_pos_iff.mp (by omega)
          · rw [List.length_append]
            omega

end Covers

/-! ## The pieces of a payload -/

namespace Piece

theorem cut_bounds (room start : Nat) (payload : Bytes) :
    ∀ piece ∈ cut room start payload,
      start ≤ piece.start ∧ piece.start % 8 = start % 8 ∧
        piece.start + piece.data.length ≤ start + payload.length ∧
        piece.data.length ≤ size room := by
  fun_induction cut room start payload with
  | case1 start payload fits =>
      intro piece member
      obtain rfl := List.mem_singleton.mp member
      exact ⟨Nat.le_refl _, rfl, Nat.le_refl _, fits⟩
  | case2 start payload tooLong ih =>
      have size_aligned : size room % 8 = 0 := by
        simp only [size]
        omega
      intro piece member
      rcases List.mem_cons.mp member with rfl | member
      · have length : (payload.take (size room)).length = size room := by
          rw [List.length_take]
          omega
        refine ⟨Nat.le_refl _, rfl, ?_, Nat.le_of_eq length⟩
        show start + (payload.take (size room)).length ≤ start + payload.length
        omega
      · obtain ⟨after, same, inside, short⟩ := ih piece member
        rw [List.length_drop] at inside
        exact ⟨by omega, by omega, by omega, short⟩

/-- The packets for the pieces of a payload cover it. -/
theorem covers_cut {more : Bool} {base : Nat} {view : Piece → PacketView}
    (payload_view : ∀ piece, (view piece).payload = piece.data)
    (offset_view : ∀ piece, (view piece).offset = base + piece.start)
    (moreFragments_view : ∀ piece, (view piece).moreFragments = (!piece.last || more))
    (room start : Nat) (payload : Bytes) :
    Covers more (base + start) ((cut room start payload).map view) payload := by
  fun_induction cut room start payload with
  | case1 start payload fits =>
      have covers : Covers more (base + start) [view ⟨start, payload, true⟩]
          (view ⟨start, payload, true⟩).payload :=
        .last _ (offset_view _) (by rw [moreFragments_view]; rfl)
      rw [payload_view] at covers
      exact covers
  | case2 start payload tooLong ih =>
      have positive := size_pos room
      have length : (payload.take (size room)).length = size room := by
        rw [List.length_take]
        omega
      have covers : Covers more (base + start)
          (view ⟨start, payload.take (size room), false⟩ ::
            (cut room (start + size room) (payload.drop (size room))).map view)
          ((view ⟨start, payload.take (size room), false⟩).payload ++
            payload.drop (size room)) := by
        refine .cons _ (offset_view _) (by rw [moreFragments_view]; rfl) ?_ ?_ ?_ ?_
        · rw [payload_view, ← List.length_pos_iff, length]
          exact positive
        · rw [payload_view, length]
          simp only [size]
          omega
        · rw [← List.length_pos_iff, List.length_drop]
          omega
        · rw [payload_view, length, Nat.add_assoc]
          exact ih
      rw [payload_view, List.take_append_drop] at covers
      exact covers

end Piece

end FamilyGateway
