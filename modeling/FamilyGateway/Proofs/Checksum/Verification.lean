import FamilyGateway.Proofs.Checksum.Residue
import FamilyGateway.Translator.Transport

/-!
# Messages that verify

A receiver accepts a message if the words of its pseudo-header and its own, summed up,
fold to all ones (`verifies`). The pseudo-header is the one of its family, as it would
be sent (`pseudoHeader`). ICMP for IPv4 has none (`verifiesAlone`).

The carried sums that the gateway works with agree with the sum of these bytes modulo
65535 (`total_pseudoHeader_mod`). A pseudo-header names a protocol other than zero, so
its sum is not zero, and a message verifies under it exactly if the whole sum is a
multiple of 65535 (`verifies_iff`). Without a pseudo-header the message of zeros has to
be excepted (`verifiesAlone_iff`).
-/

set_option autoImplicit false

namespace FamilyGateway

theorem Address.length_octets (address : Address) :
    address.octets.length = 4 ∨ address.octets.length = 16 := by
  cases address with
  | v4 address => exact .inl rfl
  | v6 address => exact .inr rfl

namespace Checksum

/-- The pseudo-header of an upper-layer message of some length. -/
def pseudoHeader (endpoints : Endpoints) (protocol : UInt8) (length : Nat) : Bytes :=
  endpoints.source.octets ++ (endpoints.destination.octets ++
    match endpoints.source.family with
    | .inet => [0, protocol] ++ Wire.bytes16 (UInt16.ofNat length)
    | .inet6 => Wire.bytes32 (UInt32.ofNat length) ++ [0, 0, 0, protocol])

/-- Whether the words of a message and of its pseudo-header fold to all ones. -/
def verifies (endpoints : Endpoints) (protocol : UInt8) (message : Bytes) : Bool :=
  fold (wordSum (pseudoHeader endpoints protocol message.length ++ message)) = 0xffff

/-- Whether the words of a message fold to all ones. -/
def verifiesAlone (message : Bytes) : Bool := fold (wordSum message) = 0xffff

/-! ## The sum of a pseudo-header -/

theorem length_pseudoHeader (endpoints : Endpoints) (protocol : UInt8) (length : Nat) :
    (pseudoHeader endpoints protocol length).length ≤ 40 ∧
      (pseudoHeader endpoints protocol length).length % 2 = 0 := by
  have source := endpoints.source.length_octets
  have destination := endpoints.destination.length_octets
  simp only [pseudoHeader, List.length_append]
  cases endpoints.source.family with
  | inet =>
      simp only [List.length_append, List.length_cons, List.length_nil, Wire.length_bytes16]
      omega
  | inet6 =>
      simp only [List.length_append, List.length_cons, List.length_nil, Wire.length_bytes32]
      omega

theorem toNat_trailerSum (protocol : UInt8) (length : UInt32) :
    (trailerSum protocol length).toNat =
      protocol.toNat + length.toNat / 65536 + length.toNat % 65536 := by
  have boundProtocol := protocol.toNat_lt
  have boundLength := length.toNat_lt
  simp only [trailerSum, UInt32.toNat_add, UInt32.toNat_div, UInt32.toNat_mod,
    UInt8.toNat_toUInt32, UInt32.reduceToNat]
  omega

theorem toNat_addressSum (address : Address) :
    (addressSum address).toNat = total address.octets := by
  have length := address.length_octets
  exact toNat_wordSum _ (by omega)

theorem sum_mod (endpoints : Endpoints) :
    endpoints.sum.toNat % 65535 =
      (total endpoints.source.octets + total endpoints.destination.octets) % 65535 := by
  rw [Endpoints.sum, addressPairSum, combine_mod, toNat_addressSum, toNat_addressSum]

/-- The sum of a pseudo-header, address by address and then protocol and length. -/
theorem total_pseudoHeader (endpoints : Endpoints) (protocol : UInt8) {length : Nat}
    (short : length ≤ 65535) :
    total (pseudoHeader endpoints protocol length) =
      total endpoints.source.octets + (total endpoints.destination.octets +
        (trailerSum protocol (UInt32.ofNat length)).toNat) := by
  have source := endpoints.source.length_octets
  have destination := endpoints.destination.length_octets
  have value : (UInt32.ofNat length).toNat = length := Nat.mod_eq_of_lt (by omega)
  rw [pseudoHeader, total_append _ _ (by omega), total_append _ _ (by omega), toNat_trailerSum,
    value]
  congr 2
  cases endpoints.source.family with
  | inet =>
      show 0 * 256 + protocol.toNat + total (Wire.bytes16 (UInt16.ofNat length)) = _
      rw [total_bytes16, UInt16.toNat_ofNat']
      omega
  | inet6 =>
      show total (Wire.bytes32 (UInt32.ofNat length) ++ [0, 0, 0, protocol]) = _
      rw [total_append _ _ (by rw [Wire.length_bytes32]), total_bytes32, value]
      show _ + (0 * 256 + 0 + (0 * 256 + protocol.toNat + 0)) = _
      omega

/-- The pseudo-header of endpoints of one family. -/
theorem pseudoHeaderSum_eq {endpoints : Endpoints}
    (same : endpoints.source.family = endpoints.destination.family) (protocol : UInt8)
    (length : UInt32) :
    pseudoHeaderSum endpoints.source endpoints.destination protocol length =
      .ok (combine endpoints.sum (trailerSum protocol length)) := by
  simp only [pseudoHeaderSum, same, if_true, Endpoints.sum]

/-! ## When a message verifies -/

/-- Under a pseudo-header a message verifies if the sum of both is a multiple of 65535. -/
theorem verifies_iff {endpoints : Endpoints} {protocol : UInt8} {message : Bytes}
    (named : protocol ≠ 0) (short : message.length ≤ 65535) :
    verifies endpoints protocol message = true ↔
      (endpoints.sum.toNat + (trailerSum protocol (UInt32.ofNat message.length)).toNat +
        total message) % 65535 = 0 := by
  obtain ⟨size, even⟩ := length_pseudoHeader endpoints protocol message.length
  have sum := sum_mod endpoints
  have trailer := toNat_trailerSum protocol (UInt32.ofNat message.length)
  have positive : protocol.toNat ≠ 0 := fun zero => named (UInt8.toNat_inj.mp zero)
  rw [verifies, decide_eq_true_eq, fold_eq_max_iff,
    toNat_wordSum _ (by rw [List.length_append]; omega), total_append _ _ even,
    total_pseudoHeader endpoints protocol short]
  omega

/-- Without a pseudo-header the sum must not be zero. -/
theorem verifiesAlone_iff {message : Bytes} (short : message.length ≤ 131074) :
    verifiesAlone message = true ↔ total message ≠ 0 ∧ total message % 65535 = 0 := by
  rw [verifiesAlone, decide_eq_true_eq, fold_eq_max_iff, toNat_wordSum message short]

/-! ## Checksums that are computed -/

/-- The checksum of a message that has zero in the place of one. -/
def computed (endpoints : Endpoints) (protocol : UInt8) (message : Bytes) : UInt16 :=
  ofSum (combine (combine endpoints.sum (trailerSum protocol (UInt32.ofNat message.length)))
    (wordSum message))

/-- The checksum of an upper-layer message, unless it is ICMP over IPv4. -/
theorem upperLayer_eq {endpoints : Endpoints} {protocol : UInt8} {message : Bytes}
    (same : endpoints.source.family = endpoints.destination.family)
    (covered : ¬ (protocol = 1 ∧ endpoints.source.family = .inet)) :
    upperLayer endpoints.source endpoints.destination protocol message =
      .ok (computed endpoints protocol message) := by
  rw [upperLayer, if_neg covered, pseudoHeaderSum_eq same]
  rfl

theorem computed_mod (endpoints : Endpoints) (protocol : UInt8) {message : Bytes}
    (short : message.length ≤ 65535) :
    (endpoints.sum.toNat + (trailerSum protocol (UInt32.ofNat message.length)).toNat +
      total message + (computed endpoints protocol message).toNat) % 65535 = 0 := by
  have pseudo := combine_mod endpoints.sum (trailerSum protocol (UInt32.ofNat message.length))
  have whole := combine_mod
    (combine endpoints.sum (trailerSum protocol (UInt32.ofNat message.length))) (wordSum message)
  have folded := fold_mod (combine
    (combine endpoints.sum (trailerSum protocol (UInt32.ofNat message.length)))
    (wordSum message))
  have bound := (fold (combine
    (combine endpoints.sum (trailerSum protocol (UInt32.ofNat message.length)))
    (wordSum message))).toNat_lt
  rw [toNat_wordSum message (by omega)] at whole
  rw [computed, toNat_ofSum]
  omega

/-- A message verifies once its computed checksum, in either form if it is zero, has taken the
place of the zero. -/
theorem verifies_of_computed {endpoints : Endpoints} {protocol : UInt8} {blank message : Bytes}
    {stored : UInt16} (named : protocol ≠ 0) (short : blank.length ≤ 65535)
    (length : message.length = blank.length) (sum : total message = total blank + stored.toNat)
    (form : stored.toNat % 65535 = (computed endpoints protocol blank).toNat % 65535) :
    verifies endpoints protocol message = true := by
  have residue := computed_mod endpoints protocol short
  rw [verifies_iff named (by omega), length, sum]
  omega

end Checksum

end FamilyGateway
