import FamilyGateway.Proofs.Checksum.Carries
import FamilyGateway.Proofs.Checksum.Segment

/-!
# Checksums of messages as they are sent

The checksum of an upper-layer message is put together from partial sums: of each address,
of protocol and length, and of the message. A receiver may as well write the pseudo-header
down in front of the message and sum up all of it, word by word (`onWire`). Both come to
the same checksum, not only up to the form of zero (`upperLayer_eq_ofTotal`), and no
addition on the way wraps around (`Checked.upperLayer_eq`).

A message with a zero in the place of its checksum balances once the checksum is put
there: nothing is left of the complement of its sum (`Balances`). All of this together is
`upperLayer_as_sent`.
-/

set_option autoImplicit false

namespace FamilyGateway.Checksum

/-- What the checksum of a message covers, as it would be sent: the message behind its
pseudo-header, or the message alone if it is ICMP over IPv4. -/
def onWire (endpoints : Endpoints) (protocol : UInt8) (message : Bytes) : Bytes :=
  if protocol = 1 ∧ endpoints.source.family = .inet then message
  else pseudoHeader endpoints protocol message.length ++ message

/-- Nothing is left of the sum of a message that carries its checksum, put together from the sums of
the pseudo-header and of the message. ICMP over IPv4 is summed up alone. -/
def Balances (endpoints : Endpoints) (protocol : UInt8) (message : Bytes) : Prop :=
  if protocol = 1 ∧ endpoints.source.family = .inet then ofSum (wordSum message) = 0
  else
    ∃ pseudo, pseudoHeaderSum endpoints.source endpoints.destination protocol
        (UInt32.ofNat message.length) = .ok pseudo ∧
      ofSum (combine pseudo (wordSum message)) = 0

variable {endpoints : Endpoints} {protocol : UInt8} {message : Bytes}

/-! ## From partial sums to the bytes -/

/-- The checksum that is put together from partial sums is the one of the bytes. -/
theorem computed_eq_ofTotal (short : message.length ≤ 65535) :
    computed endpoints protocol message =
      ofTotal (total (pseudoHeader endpoints protocol message.length ++ message)) := by
  obtain ⟨-, even⟩ := length_pseudoHeader endpoints protocol message.length
  calc computed endpoints protocol message
    _ = ofTotal ((combine endpoints.sum
          (trailerSum protocol (UInt32.ofNat message.length))).toNat + total message) := by
        rw [computed, ofSum_combine, toNat_wordSum message (by omega)]
    _ = ofTotal (endpoints.sum.toNat +
          (trailerSum protocol (UInt32.ofNat message.length)).toNat + total message) :=
        ofTotal_congr (endAround_add (endAround_combine _ _) rfl)
    _ = ofTotal (total endpoints.source.octets + total endpoints.destination.octets +
          (trailerSum protocol (UInt32.ofNat message.length)).toNat + total message) := by
        refine ofTotal_congr (endAround_add (endAround_add ?_ rfl) rfl)
        rw [Endpoints.sum, addressPairSum, endAround_combine, toNat_addressSum, toNat_addressSum]
    _ = ofTotal (total (pseudoHeader endpoints protocol message.length ++ message)) := by
        rw [total_append _ _ even, total_pseudoHeader endpoints protocol short,
          Nat.add_assoc (total endpoints.source.octets)]

/-- **The checksum of a message is the one of the bytes that it covers.** -/
theorem upperLayer_eq_ofTotal (same : endpoints.source.family = endpoints.destination.family)
    (short : message.length ≤ 65535) :
    upperLayer endpoints.source endpoints.destination protocol message =
      .ok (ofTotal (total (onWire endpoints protocol message))) := by
  by_cases alone : protocol = 1 ∧ endpoints.source.family = .inet
  · have led : endpoints.destination.family = .inet := same.symm.trans alone.2
    rw [upperLayer, if_pos alone, if_pos led, onWire, if_pos alone, ofSum_eq_ofTotal,
      toNat_wordSum message (by omega)]
  · rw [upperLayer_eq same alone, computed_eq_ofTotal short, onWire, if_neg alone]

/-- A message between families has no checksum. -/
theorem upperLayer_of_mixed
    (mixed : endpoints.source.family ≠ endpoints.destination.family) :
    upperLayer endpoints.source endpoints.destination protocol message =
      .error .familyMismatch := by
  unfold upperLayer
  split
  next alone => rw [if_neg fun led => mixed (alone.2.trans led.symm)]
  next =>
    rw [pseudoHeaderSum, if_neg mixed]
    rfl

/-- A message balances if the bytes that its checksum covers come to all ones. -/
theorem balances_of_endAround (same : endpoints.source.family = endpoints.destination.family)
    (short : message.length ≤ 65535)
    (full : endAround (total (onWire endpoints protocol message)) = 65535) :
    Balances endpoints protocol message := by
  have nothing : ofTotal (total (onWire endpoints protocol message)) = 0 := by
    rw [← UInt16.toNat_inj, toNat_ofTotal, full, Nat.sub_self, UInt16.toNat_zero]
  rw [Balances]
  split
  next alone =>
    rw [onWire, if_pos alone] at nothing
    rw [ofSum_eq_ofTotal, toNat_wordSum message (by omega), nothing]
  next behind =>
    rw [onWire, if_neg behind] at nothing
    exact ⟨_, pseudoHeaderSum_eq same protocol _, (computed_eq_ofTotal short).trans nothing⟩

/-! ## Checksums that are filled in -/

/-- A message with a zero in the place of its checksum covers the checksum on top once it is filled
in. -/
theorem total_onWire_putChecksum {offset : Nat} (even : offset % 2 = 0)
    (blank : Segment.checksumAt? offset message = some 0) (checksum : UInt16) :
    total (onWire endpoints protocol (Segment.putChecksum offset checksum message)) =
      total (onWire endpoints protocol message) + checksum.toNat := by
  have filled := Segment.total_putChecksum even blank checksum
  rw [UInt16.toNat_zero, Nat.add_zero] at filled
  obtain ⟨-, words⟩ := length_pseudoHeader endpoints protocol message.length
  simp only [onWire]
  split
  next => exact filled
  next =>
    rw [Segment.length_putChecksum checksum (Segment.le_length_of_checksumAt? blank),
      total_append _ _ words, total_append _ _ words, filled, Nat.add_assoc]

/-! ## Additions that are checked -/

namespace Checked

/-- The sum of the words of an address, checking every addition. -/
def addressSum (address : Address) : Option UInt32 := wordSum address.octets

/-- The sum of protocol and length, checking every addition. -/
def trailerSum (protocol : UInt8) (length : UInt32) : Option UInt32 := do
  let sum ← add protocol.toUInt32 (length / 65536)
  add sum (length % 65536)

/-- The sum of a pseudo-header, checking every addition. -/
def pseudoHeaderSum (source destination : Address) (protocol : UInt8) (length : UInt32) :
    Option (Except ChecksumError UInt32) :=
  if source.family = destination.family then do
    let source ← addressSum source
    let destination ← addressSum destination
    let addresses ← combine source destination
    let trailer ← trailerSum protocol length
    let pseudo ← combine addresses trailer
    some (.ok pseudo)
  else some (.error .familyMismatch)

/-- The checksum of an upper-layer message, checking every addition. -/
def upperLayer (source destination : Address) (protocol : UInt8) (message : Bytes) :
    Option (Except ChecksumError UInt16) := do
  let body ← wordSum message
  if protocol = 1 ∧ source.family = .inet then
    if destination.family = .inet then (ofSum body).map .ok else some (.error .familyMismatch)
  else
    match ← pseudoHeaderSum source destination protocol (UInt32.ofNat message.length) with
    | .ok pseudo => do
      let sum ← combine pseudo body
      (ofSum sum).map .ok
    | .error error => some (.error error)

theorem addressSum_eq (address : Address) :
    addressSum address = some (Checksum.addressSum address) := by
  have length := address.length_octets
  exact wordSum_eq (by omega)

theorem trailerSum_eq (protocol : UInt8) (length : UInt32) :
    trailerSum protocol length = some (Checksum.trailerSum protocol length) := by
  have boundProtocol := protocol.toNat_lt
  have boundLength := length.toNat_lt
  have first : add protocol.toUInt32 (length / 65536) =
      some (protocol.toUInt32 + length / 65536) := by
    refine add_eq ?_
    simp only [UInt8.toNat_toUInt32, UInt32.toNat_div, UInt32.reduceToNat]
    omega
  have value := toNat_of_add first
  simp only [UInt8.toNat_toUInt32, UInt32.toNat_div, UInt32.reduceToNat] at value
  refine Option.bind_eq_some_iff.mpr ⟨_, first, add_eq ?_⟩
  simp only [value, UInt32.toNat_mod, UInt32.reduceToNat]
  omega

theorem pseudoHeaderSum_eq (source destination : Address) (protocol : UInt8)
    (length : UInt32) :
    pseudoHeaderSum source destination protocol length =
      some (Checksum.pseudoHeaderSum source destination protocol length) := by
  unfold pseudoHeaderSum Checksum.pseudoHeaderSum
  split
  next =>
    exact Option.bind_eq_some_iff.mpr ⟨_, addressSum_eq source, Option.bind_eq_some_iff.mpr
      ⟨_, addressSum_eq destination, Option.bind_eq_some_iff.mpr ⟨_, combine_eq _ _,
        Option.bind_eq_some_iff.mpr ⟨_, trailerSum_eq protocol length,
          Option.bind_eq_some_iff.mpr ⟨_, combine_eq _ _, rfl⟩⟩⟩⟩⟩
  next => rfl

/-- **No addition for a checksum wraps around.** -/
theorem upperLayer_eq (source destination : Address) (protocol : UInt8) {message : Bytes}
    (short : message.length ≤ 131074) :
    upperLayer source destination protocol message =
      some (Checksum.upperLayer source destination protocol message) := by
  simp only [upperLayer, wordSum_eq short, Option.bind_eq_bind, Option.bind_some]
  unfold Checksum.upperLayer
  split
  next =>
    split
    next => rw [ofSum_eq, Option.map_some]
    next => rfl
  next =>
    rw [pseudoHeaderSum_eq, Option.bind_some]
    cases Checksum.pseudoHeaderSum source destination protocol (UInt32.ofNat message.length) with
    | error error => rfl
    | ok pseudo =>
        simp only [combine_eq, ofSum_eq, Option.bind_some, Option.map_some]
        rfl

end Checked

/-! ## Messages as they are sent -/

/-- What is known about the checksum of a message between addresses of one family. -/
structure CoversWire (endpoints : Endpoints) (protocol : UInt8) (message : Bytes)
    (checksum : UInt16) : Prop where
  computed : upperLayer endpoints.source endpoints.destination protocol message = .ok checksum
  /-- It is the complement of what the words of the bytes that it covers fold to. -/
  serialized : checksum = ofSum (wordSum (onWire endpoints protocol message))
  exact : (wordSum (onWire endpoints protocol message)).toNat =
    total (onWire endpoints protocol message)
  /-- Wherever there is room for it, the message balances once it is filled in. -/
  balances : ∀ offset, offset % 2 = 0 → Segment.checksumAt? offset message = some 0 →
    Balances endpoints protocol (Segment.putChecksum offset checksum message)

theorem coversWire (same : endpoints.source.family = endpoints.destination.family)
    (short : message.length ≤ 65535) :
    CoversWire endpoints protocol message
      (ofTotal (total (onWire endpoints protocol message))) := by
  obtain ⟨size, -⟩ := length_pseudoHeader endpoints protocol message.length
  have covered : (onWire endpoints protocol message).length ≤ 131074 := by
    unfold onWire
    split
    next => omega
    next =>
      rw [List.length_append]
      omega
  have exact := toNat_wordSum _ covered
  refine ⟨upperLayer_eq_ofTotal same short, ?_, exact, fun offset even blank => ?_⟩
  · rw [ofSum_eq_ofTotal, exact]
  · refine balances_of_endAround same ?_ ?_
    · rwa [Segment.length_putChecksum _ (Segment.le_length_of_checksumAt? blank)]
    · rw [total_onWire_putChecksum even blank, endAround_add_ofTotal]

/-- **A checksum is the one of the message as it is sent**, behind the pseudo-header of its family
except for ICMP over IPv4. Between families there is none. -/
theorem upperLayer_as_sent (endpoints : Endpoints) (protocol : UInt8) (message : Bytes) :
    (message.length ≤ 65535 →
      Checked.upperLayer endpoints.source endpoints.destination protocol message =
          some (upperLayer endpoints.source endpoints.destination protocol message) ∧
        (endpoints.source.family = endpoints.destination.family →
          ∃ checksum, CoversWire endpoints protocol message checksum)) ∧
      (endpoints.source.family ≠ endpoints.destination.family →
        upperLayer endpoints.source endpoints.destination protocol message =
          .error .familyMismatch) :=
  ⟨fun short => ⟨Checked.upperLayer_eq _ _ _ (Nat.le_trans short (by decide)),
    fun same => ⟨_, coversWire same short⟩⟩, upperLayer_of_mixed⟩

/-- A UDP segment with an odd byte at its end and no checksum yet. -/
def unstamped : Bytes := [0x30, 0x39, 0x00, 0x35, 0x00, 0x09, 0x00, 0x00, 0x68]

/-- The segment has a checksum between addresses of IPv4, balances with it, and has none between
families. -/
theorem upperLayer_as_sent_odd :
    unstamped.length ≤ 65535 ∧
      Address.family (.v4 ⟨192, 0, 2, 1⟩) = Address.family (.v4 ⟨198, 51, 100, 7⟩) ∧
      Segment.checksumAt? 6 unstamped = some 0 ∧
      Balances ⟨.v4 ⟨192, 0, 2, 1⟩, .v4 ⟨198, 51, 100, 7⟩⟩ 17
        (Segment.putChecksum 6 0x7b31 unstamped) ∧
      upperLayer (.v4 ⟨192, 0, 2, 1⟩) (.v6 .unspecified) 17 unstamped = .error .familyMismatch := by
  have short : unstamped.length ≤ 65535 := by decide
  have blank : Segment.checksumAt? 6 unstamped = some 0 := by decide
  obtain ⟨-, carries⟩ :=
    (upperLayer_as_sent ⟨.v4 ⟨192, 0, 2, 1⟩, .v4 ⟨198, 51, 100, 7⟩⟩ 17 unstamped).1 short
  obtain ⟨checksum, covers⟩ := carries rfl
  obtain rfl : checksum = 0x7b31 := by
    have computed := covers.computed
    cases computed
    decide
  exact ⟨short, rfl, blank, covers.balances 6 rfl blank,
    (upperLayer_as_sent ⟨.v4 ⟨192, 0, 2, 1⟩, .v6 .unspecified⟩ 17 unstamped).2 (by decide)⟩

end FamilyGateway.Checksum
