import FamilyGateway.Proofs.Checksum.Verification

/-!
# Segments under new endpoints

A segment that reaches its checksum is cut by it into three parts, and rewriting
the checksum exchanges the middle one. This gives the rewritten segment byte by
byte (`getElem?_putChecksum`) and by its sum (`total_putChecksum`), and shows that
rewriting the front of a segment is rewriting the segment (`putChecksum_append`).

Giving a segment new endpoints neither repairs nor breaks its checksum
(`verifies_putChecksum`), it can be done on the first piece of a segment
(`readdress_append`), and within IPv6 it can be taken back, up to the two forms of a
checksum of zero (`readdress_back`).
-/

set_option autoImplicit false

namespace FamilyGateway

namespace UpperProtocol

theorem checksumOffset_even (protocol : UpperProtocol) : protocol.checksumOffset % 2 = 0 := by
  cases protocol <;> rfl

theorem number_ne_zero (family : Family) (protocol : UpperProtocol) :
    protocol.number family ≠ 0 := by
  cases family <;> cases protocol <;> decide

/-- Only ICMP has a number of its own in each family. -/
theorem number_eq {protocol : UpperProtocol} {left right : Family}
    (same : protocol = .icmp → left = right) : protocol.number left = protocol.number right := by
  cases protocol with
  | tcp => rfl
  | udp => rfl
  | icmp => rw [same rfl]

end UpperProtocol

namespace Endpoints

/-- The endpoints of a reply. -/
def swap (endpoints : Endpoints) : Endpoints := ⟨endpoints.destination, endpoints.source⟩

/-- A reply has the same sum of addresses. -/
theorem sum_swap (endpoints : Endpoints) : endpoints.swap.sum = endpoints.sum := by
  apply UInt32.toNat_inj.mp
  simp only [sum, swap, Checksum.addressPairSum, Checksum.toNat_combine]
  exact Nat.add_comm _ _

end Endpoints

namespace Segment

open Checksum (total total_append total_bytes16 verifies verifies_iff adjust_mod)

/-! ## The stored checksum -/

/-- The three parts into which the stored checksum cuts a segment. -/
theorem eq_of_checksumAt? {offset : Nat} {segment : Bytes} {stored : UInt16}
    (found : checksumAt? offset segment = some stored) :
    segment = segment.take offset ++ Wire.bytes16 stored ++ segment.drop (offset + 2) := by
  unfold checksumAt? at found
  split at found
  next first second rest tail =>
    cases found
    have beyond : segment.drop (offset + 2) = rest := by
      rw [← List.drop_drop, tail]
      rfl
    simp only [Wire.bytes16, Wire.high_word, Wire.low_word, beyond, List.append_assoc,
      List.cons_append, List.nil_append]
    rw [← tail, List.take_append_drop]
  next => cases found

theorem le_length_of_checksumAt? {offset : Nat} {segment : Bytes} {stored : UInt16}
    (found : checksumAt? offset segment = some stored) : offset + 2 ≤ segment.length := by
  unfold checksumAt? at found
  split at found
  next first second rest tail =>
    have lengths := congrArg List.length tail
    simp only [List.length_drop, List.length_cons] at lengths
    omega
  next => cases found

/-- A segment that is long enough stores a checksum. -/
theorem exists_checksumAt? {offset : Nat} {segment : Bytes}
    (reaches : offset + 2 ≤ segment.length) :
    ∃ stored, checksumAt? offset segment = some stored := by
  unfold checksumAt?
  split
  next first second rest tail => exact ⟨_, rfl⟩
  next other =>
    exfalso
    have lengths : (segment.drop offset).length = segment.length - offset := List.length_drop
    match tail : segment.drop offset with
    | [] =>
        rw [tail] at lengths
        simp only [List.length_nil] at lengths
        omega
    | [last] =>
        rw [tail] at lengths
        simp only [List.length_singleton] at lengths
        omega
    | first :: second :: rest => exact other first second rest tail

/-- The checksum of a segment is that of a piece in front that reaches it. -/
theorem checksumAt?_append {offset : Nat} {front : Bytes} (rest : Bytes)
    (reaches : offset + 2 ≤ front.length) :
    checksumAt? offset (front ++ rest) = checksumAt? offset front := by
  obtain ⟨stored, found⟩ := exists_checksumAt? reaches
  rw [found]
  unfold checksumAt? at found ⊢
  rw [List.drop_append_of_le_length (by omega)]
  split at found
  next first second later tail =>
    rw [tail]
    exact found
  next => cases found

/-! ## Another checksum -/

theorem length_putChecksum {offset : Nat} {segment : Bytes} (checksum : UInt16)
    (reaches : offset + 2 ≤ segment.length) :
    (putChecksum offset checksum segment).length = segment.length := by
  simp only [putChecksum, List.length_append, List.length_take, List.length_drop,
    Wire.length_bytes16]
  omega

/-- Only the two bytes of the checksum can change. -/
theorem getElem?_putChecksum {offset : Nat} {segment : Bytes} (checksum : UInt16)
    (reaches : offset + 2 ≤ segment.length) {index : Nat} (notFirst : index ≠ offset)
    (notSecond : index ≠ offset + 1) :
    (putChecksum offset checksum segment)[index]? = segment[index]? := by
  have front : (segment.take offset).length = offset := by
    rw [List.length_take]
    omega
  rw [putChecksum, List.append_assoc]
  by_cases before : index < offset
  · rw [List.getElem?_append_left (by omega), List.getElem?_take_of_lt before]
  · rw [List.getElem?_append_right (by omega), front,
      List.getElem?_append_right (by rw [Wire.length_bytes16]; omega), List.getElem?_drop,
      Wire.length_bytes16]
    congr 1
    omega

/-- The bytes in front of the checksum stay where they are. -/
theorem take_putChecksum {offset : Nat} {segment : Bytes} (checksum : UInt16)
    (reaches : offset + 2 ≤ segment.length) :
    (putChecksum offset checksum segment).take offset = segment.take offset := by
  have front : (segment.take offset).length = offset := by
    rw [List.length_take]
    omega
  rw [putChecksum, List.append_assoc]
  exact List.take_left' front

/-- The bytes behind the checksum stay where they are. -/
theorem drop_putChecksum {offset : Nat} {segment : Bytes} (checksum : UInt16)
    (reaches : offset + 2 ≤ segment.length) :
    (putChecksum offset checksum segment).drop (offset + 2) = segment.drop (offset + 2) := by
  have front : (segment.take offset ++ Wire.bytes16 checksum).length = offset + 2 := by
    rw [List.length_append, List.length_take, Wire.length_bytes16]
    omega
  rw [putChecksum]
  exact List.drop_left' front

/-- The checksum that was put in is the one that is stored. -/
theorem checksumAt?_putChecksum {offset : Nat} {segment : Bytes} (checksum : UInt16)
    (reaches : offset + 2 ≤ segment.length) :
    checksumAt? offset (putChecksum offset checksum segment) = some checksum := by
  have front : (segment.take offset).length = offset := by
    rw [List.length_take]
    omega
  rw [checksumAt?, putChecksum, List.append_assoc, List.drop_left' front]
  simp only [Wire.bytes16, List.cons_append, List.nil_append, Wire.word_high_low]

/-- Of two checksums that are put in, the second one stays. -/
theorem putChecksum_putChecksum {offset : Nat} {segment : Bytes} (first second : UInt16)
    (reaches : offset + 2 ≤ segment.length) :
    putChecksum offset second (putChecksum offset first segment) =
      putChecksum offset second segment := by
  rw [putChecksum, take_putChecksum first reaches, drop_putChecksum first reaches, putChecksum]

/-- Putting in the checksum that is stored changes nothing. -/
theorem putChecksum_stored {offset : Nat} {segment : Bytes} {stored : UInt16}
    (found : checksumAt? offset segment = some stored) :
    putChecksum offset stored segment = segment :=
  (eq_of_checksumAt? found).symm

/-- A segment's sum moves by the difference of the two checksums. -/
theorem total_putChecksum {offset : Nat} {segment : Bytes} {stored : UInt16}
    (even : offset % 2 = 0) (found : checksumAt? offset segment = some stored)
    (checksum : UInt16) :
    total (putChecksum offset checksum segment) + stored.toNat =
      total segment + checksum.toNat := by
  have reaches := le_length_of_checksumAt? found
  have front : (segment.take offset).length % 2 = 0 := by
    rw [List.length_take, Nat.min_eq_left (by omega)]
    exact even
  have sum (value : UInt16) :
      total (segment.take offset ++ Wire.bytes16 value ++ segment.drop (offset + 2)) =
        total (segment.take offset) + value.toNat + total (segment.drop (offset + 2)) := by
    have word : (Wire.bytes16 value).length % 2 = 0 := by rw [Wire.length_bytes16]
    rw [List.append_assoc, total_append _ _ front, total_append _ _ word, total_bytes16]
    omega
  have parts := congrArg total (eq_of_checksumAt? found)
  rw [sum] at parts
  rw [putChecksum, sum]
  omega

theorem putChecksum_append {offset : Nat} {front : Bytes} (rest : Bytes) (checksum : UInt16)
    (reaches : offset + 2 ≤ front.length) :
    putChecksum offset checksum (front ++ rest) = putChecksum offset checksum front ++ rest := by
  simp only [putChecksum]
  rw [List.take_append_of_le_length (by omega), List.drop_append_of_le_length reaches]
  simp only [List.append_assoc]

/-- The form in which a checksum is stored does not change its residue. -/
theorem storedForm_mod (protocol : UpperProtocol) (checksum : UInt16) :
    (storedForm protocol checksum).toNat % 65535 = checksum.toNat % 65535 := by
  unfold storedForm
  split
  next zero => rw [zero.2]; rfl
  next => rfl

/-! ## New endpoints -/

/-- What a segment becomes that stores a checksum. -/
theorem readdress_of_stored {protocol : UpperProtocol} {before after : Endpoints}
    {fragmented : Bool} {segment : Bytes} {stored : UInt16}
    (found : checksumAt? protocol.checksumOffset segment = some stored)
    (present : ¬ (protocol = .udp ∧ stored = 0)) :
    readdress protocol before after fragmented segment =
      .ok (putChecksum protocol.checksumOffset
        (storedForm protocol (Checksum.adjust stored before.sum after.sum)) segment) := by
  have carries : segment ≠ [] := by
    intro empty
    have reaches := le_length_of_checksumAt? found
    rw [empty, List.length_nil] at reaches
    omega
  simp only [readdress, carries, if_false, found, present]

/-- A segment without a checksum is left alone, except on the way to IPv6. -/
theorem readdress_of_zero {before after : Endpoints} {fragmented : Bool} {segment : Bytes}
    (found : checksumAt? UpperProtocol.udp.checksumOffset segment = some 0)
    (optional : ¬ (before.source.family = .inet ∧ after.source.family = .inet6)) :
    readdress .udp before after fragmented segment = .ok segment := by
  have carries : segment ≠ [] := by
    intro empty
    have reaches := le_length_of_checksumAt? found
    rw [empty, List.length_nil] at reaches
    omega
  simp only [readdress, carries, if_false, found, and_self, if_true, optional]

/-- A segment that can be given new endpoints is empty or stores a checksum. -/
theorem exists_stored_of_readdress {protocol : UpperProtocol} {before after : Endpoints}
    {fragmented : Bool} {segment result : Bytes} (carries : segment ≠ [])
    (ok : readdress protocol before after fragmented segment = .ok result) :
    ∃ stored, checksumAt? protocol.checksumOffset segment = some stored := by
  simp only [readdress, carries, if_false] at ok
  split at ok
  next => cases ok
  next stored found => exact ⟨stored, found⟩

/-- A segment that is given new endpoints stays as it is or has another checksum. -/
theorem readdress_cases {protocol : UpperProtocol} {before after : Endpoints}
    {fragmented : Bool} {segment result : Bytes}
    (ok : readdress protocol before after fragmented segment = .ok result) :
    result = segment ∨ protocol.checksumOffset + 2 ≤ segment.length ∧
      ∃ checksum, result = putChecksum protocol.checksumOffset checksum segment := by
  by_cases empty : segment = []
  · simp only [readdress, empty, if_true] at ok
    cases ok
    exact .inl empty.symm
  · obtain ⟨stored, found⟩ := exists_stored_of_readdress empty ok
    have reaches := le_length_of_checksumAt? found
    simp only [readdress, empty, if_false, found] at ok
    split at ok
    next =>
      split at ok
      next =>
        split at ok
        next => cases ok
        next =>
          split at ok
          next => cases ok; exact .inr ⟨reaches, _, rfl⟩
          next => cases ok
      next => cases ok; exact .inl rfl
    next => cases ok; exact .inr ⟨reaches, _, rfl⟩

theorem length_readdress {protocol : UpperProtocol} {before after : Endpoints}
    {fragmented : Bool} {segment result : Bytes}
    (ok : readdress protocol before after fragmented segment = .ok result) :
    result.length = segment.length := by
  rcases readdress_cases ok with rfl | ⟨reaches, checksum, rfl⟩
  · rfl
  · exact length_putChecksum checksum reaches

/-- New endpoints leave everything but the two bytes of the checksum alone. -/
theorem getElem?_readdress {protocol : UpperProtocol} {before after : Endpoints}
    {fragmented : Bool} {segment result : Bytes}
    (ok : readdress protocol before after fragmented segment = .ok result) {index : Nat}
    (notFirst : index ≠ protocol.checksumOffset) (notSecond : index ≠ protocol.checksumOffset + 1) :
    result[index]? = segment[index]? := by
  rcases readdress_cases ok with rfl | ⟨reaches, checksum, rfl⟩
  · rfl
  · exact getElem?_putChecksum checksum reaches notFirst notSecond

/-- A segment under new endpoints verifies exactly if it verified under the old ones. -/
theorem verifies_putChecksum {protocol : UpperProtocol} {before after : Endpoints}
    {number : UInt8} {segment : Bytes} {stored : UInt16} (named : number ≠ 0)
    (short : segment.length ≤ 65535)
    (found : checksumAt? protocol.checksumOffset segment = some stored) :
    verifies after number (putChecksum protocol.checksumOffset
        (storedForm protocol (Checksum.adjust stored before.sum after.sum)) segment) =
      verifies before number segment := by
  have length := length_putChecksum
    (storedForm protocol (Checksum.adjust stored before.sum after.sum))
    (le_length_of_checksumAt? found)
  have sum := total_putChecksum protocol.checksumOffset_even found
    (storedForm protocol (Checksum.adjust stored before.sum after.sum))
  have form := storedForm_mod protocol (Checksum.adjust stored before.sum after.sum)
  have moved := adjust_mod stored before.sum after.sum
  rw [Bool.eq_iff_iff, verifies_iff named (by omega), verifies_iff named short, length]
  omega

/-- New endpoints for a segment are new endpoints for the piece in front that reaches the
checksum. -/
theorem readdress_append {protocol : UpperProtocol} {before after : Endpoints}
    {whole fragmented : Bool} {front rest result : Bytes}
    (reaches : protocol.checksumOffset + 2 ≤ front.length)
    (present : before.source.family = .inet → after.source.family = .inet6 →
      protocol = .udp → checksumAt? protocol.checksumOffset front ≠ some 0)
    (ok : readdress protocol before after whole (front ++ rest) = .ok result) :
    ∃ piece, readdress protocol before after fragmented front = .ok piece ∧
      result = piece ++ rest := by
  obtain ⟨stored, found⟩ := exists_checksumAt? reaches
  have foundWhole : checksumAt? protocol.checksumOffset (front ++ rest) = some stored := by
    rw [checksumAt?_append rest reaches, found]
  by_cases zero : protocol = .udp ∧ stored = 0
  · obtain ⟨rfl, rfl⟩ := zero
    have optional : ¬ (before.source.family = .inet ∧ after.source.family = .inet6) :=
      fun crossing => present crossing.1 crossing.2 rfl found
    rw [readdress_of_zero foundWhole optional] at ok
    cases ok
    exact ⟨front, readdress_of_zero found optional, rfl⟩
  · rw [readdress_of_stored foundWhole zero, putChecksum_append rest _ reaches] at ok
    cases ok
    exact ⟨_, readdress_of_stored found zero, rfl⟩

/-! ## The old endpoints again -/

/-- A checksum of UDP is never stored as zero. -/
theorem storedForm_present (protocol : UpperProtocol) (checksum : UInt16) :
    ¬ (protocol = .udp ∧ storedForm protocol checksum = 0) := by
  rintro ⟨rfl, zero⟩
  unfold storedForm at zero
  split at zero
  next => exact absurd zero (by decide)
  next other => exact other ⟨rfl, zero⟩

/-- The segments are the same, or one of them stores zero as its checksum where the other one
stores its other form. -/
inductive SameUpToZero (protocol : UpperProtocol) (segment : Bytes) : Bytes → Prop where
  | same : SameUpToZero protocol segment segment
  | zero {stored other : UInt16}
      (found : checksumAt? protocol.checksumOffset segment = some stored)
      (forms : stored = 0 ∧ other = 0xffff ∨ stored = 0xffff ∧ other = 0) :
      SameUpToZero protocol segment (putChecksum protocol.checksumOffset other segment)

/-- Another checksum of the same residue is the same one or the other form of zero. -/
theorem SameUpToZero.of_mod {protocol : UpperProtocol} {segment : Bytes} {stored other : UInt16}
    (found : checksumAt? protocol.checksumOffset segment = some stored)
    (residue : other.toNat % 65535 = stored.toNat % 65535) :
    SameUpToZero protocol segment (putChecksum protocol.checksumOffset other segment) := by
  by_cases equal : other = stored
  · rw [equal, putChecksum_stored found]
    exact .same
  · refine .zero found ?_
    have boundStored := stored.toNat_lt
    have boundOther := other.toNat_lt
    rw [← UInt16.toNat_inj] at equal
    simp only [← UInt16.toNat_inj, UInt16.reduceToNat]
    omega

/-- **New endpoints can be taken back.** A segment that is given new endpoints within IPv6, and then
the old ones in the other order, is what it was up to the form of a checksum of zero. -/
theorem readdress_back {protocol : UpperProtocol} {before after : Endpoints}
    {fragmented : Bool} {segment result : Bytes} (native : before.source.family = .inet6)
    (led : after.destination.family = .inet6)
    (ok : readdress protocol before after fragmented segment = .ok result) :
    ∃ restored, readdress protocol after.swap before.swap fragmented result = .ok restored ∧
      SameUpToZero protocol segment restored := by
  have stays : ¬ (before.source.family = .inet ∧ after.source.family = .inet6) := by
    rw [native]
    exact fun crossing => Family.noConfusion crossing.1
  have staysBack : ¬ (after.swap.source.family = .inet ∧ before.swap.source.family = .inet6) := by
    rw [Endpoints.swap, led]
    exact fun crossing => Family.noConfusion crossing.1
  by_cases empty : segment = []
  · simp only [readdress, empty, if_true] at ok
    cases ok
    rw [empty]
    exact ⟨[], by simp only [readdress, if_true], .same⟩
  · obtain ⟨stored, found⟩ := exists_stored_of_readdress empty ok
    by_cases missing : protocol = .udp ∧ stored = 0
    · obtain ⟨rfl, rfl⟩ := missing
      rw [readdress_of_zero found stays] at ok
      cases ok
      exact ⟨_, readdress_of_zero found staysBack, .same⟩
    · rw [readdress_of_stored found missing] at ok
      cases ok
      have reaches := le_length_of_checksumAt? found
      have forth := Checksum.adjust_mod stored before.sum after.sum
      have form := storedForm_mod protocol (Checksum.adjust stored before.sum after.sum)
      have present := storedForm_present protocol (Checksum.adjust stored before.sum after.sum)
      generalize storedForm protocol (Checksum.adjust stored before.sum after.sum) = moved
        at form present
      refine ⟨_, readdress_of_stored (checksumAt?_putChecksum moved reaches) present, ?_⟩
      rw [putChecksum_putChecksum _ _ reaches, Endpoints.sum_swap, Endpoints.sum_swap]
      refine .of_mod found ?_
      have back := Checksum.adjust_mod moved after.sum before.sum
      have formBack := storedForm_mod protocol (Checksum.adjust moved after.sum before.sum)
      omega

end Segment

end FamilyGateway
