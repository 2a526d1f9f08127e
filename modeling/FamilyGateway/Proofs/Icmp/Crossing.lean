import FamilyGateway.Icmp.Echo
import FamilyGateway.Proofs.Checksum.Verification

/-!
# Echo messages that cross

An echo message that crosses between the families gets another type, and a checksum
updated by what enters and what leaves the sum (`IcmpMessage.retype`). Nothing else of
it changes (`Icmp.toIpv6_ok`, `Icmp.toIpv4_ok`).

On the way to IPv6 a message that verifies becomes one that verifies under the new
pseudo-header (`Icmp.verifies_toIpv6`). On the way to IPv4 it becomes one whose sum
is a multiple of 65535, which verifies unless it is zero. That happens to one kind of
message only, the reply in which nothing but the type and the checksum is set
(`Icmp.verifiesAlone_toIpv4_iff`).
-/

set_option autoImplicit false

namespace FamilyGateway

open Checksum (total total_append total_bytes16 total_bytes32_eq_zero_iff total_eq_zero_iff
  combine combine_mod combine_eq_zero_iff fold_eq_max_iff adjust adjust_mod
  adjust_zero_eq_zero_iff trailerSum verifies verifies_iff verifiesAlone verifiesAlone_iff)

/-! ## The bytes of a message -/

namespace IcmpMessage

theorem length_encode (message : IcmpMessage) :
    message.encode.length = 8 + message.data.length := by
  simp only [encode, List.length_append, List.length_cons, List.length_nil, Wire.length_bytes16,
    Wire.length_bytes32]

/-- Bytes that are read as a message are the bytes of that message. -/
theorem eq_encode_of_read {bytes : Bytes} {message : IcmpMessage}
    (ok : read bytes = .ok message) : bytes = message.encode := by
  unfold read at ok
  split at ok
  next =>
    cases ok
    simp only [encode, Wire.bytes16, Wire.bytes32, Wire.high_word, Wire.low_word,
      Wire.upper_long, Wire.lower_long, List.cons_append, List.nil_append]
  next => cases ok

/-- Too few bytes are no message. -/
theorem read_of_short {bytes : Bytes} (short : bytes.length < 8) :
    read bytes = .error (.truncated bytes.length) := by
  unfold read
  split
  next =>
    simp only [List.length_cons] at short
    omega
  next => rfl

theorem encode_inj {left right : IcmpMessage} (same : left.encode = right.encode) :
    left = right := by
  have both := congrArg read same
  rw [read_encode, read_encode] at both
  exact Except.ok.inj both

/-- The sum of a message, part by part. -/
theorem total_encode (message : IcmpMessage) :
    total message.encode = message.type.toNat * 256 + message.code.toNat +
      message.checksum.toNat + total (Wire.bytes32 message.parameter) + total message.data := by
  have words : message.encode = [message.type, message.code] ++
      (Wire.bytes16 message.checksum ++ (Wire.bytes32 message.parameter ++ message.data)) := by
    simp only [encode, List.append_assoc]
  rw [words, total_append _ _ (by simp), total_append _ _ (by simp),
    total_append _ _ (by simp), total_bytes16]
  simp only [total]
  omega

theorem toNat_typeWord (message : IcmpMessage) :
    message.typeWord.toNat = message.type.toNat * 256 + message.code.toNat := by
  rw [typeWord, UInt16.toNat_toUInt32, Wire.toNat_word]

/-- The message with another type, and a checksum updated for words that summed to `before` and
now sum to `after`. -/
def retype (message : IcmpMessage) (type : UInt8) (before after : UInt32) : IcmpMessage :=
  { message with type := type, checksum := Checksum.adjust message.checksum before after }

theorem length_retype (message : IcmpMessage) (type : UInt8) (before after : UInt32) :
    (message.retype type before after).encode.length = message.encode.length := by
  rw [length_encode, length_encode]
  rfl

/-- The sum of a message moves by the difference of the two types and of the two checksums. -/
theorem total_retype (message : IcmpMessage) (type : UInt8) (before after : UInt32) :
    total (message.retype type before after).encode + message.type.toNat * 256 +
        message.checksum.toNat =
      total message.encode + type.toNat * 256 +
        (Checksum.adjust message.checksum before after).toNat := by
  rw [total_encode, total_encode]
  simp only [retype]
  omega

end IcmpMessage

/-! ## The two conversions -/

namespace Icmp

/-- An echo message on its way between the families. The pseudo-header is that of the side on
which the packet is an IPv6 packet. -/
def cross (convert : UInt32 → Bytes → Except IcmpError Bytes) (endpoints : Endpoints)
    (message : Bytes) : Except DropReason Bytes :=
  match Checksum.pseudoHeaderSum endpoints.source endpoints.destination
      (UpperProtocol.icmp.number .inet6) (UInt32.ofNat message.length) with
  | .error error => .error (.checksum error)
  | .ok sum =>
    match convert sum message with
    | .error error => .error (.icmp error)
    | .ok result => .ok result

/-- A message that crosses does so under the sum of a pseudo-header. -/
theorem cross_ok {convert : UInt32 → Bytes → Except IcmpError Bytes} {endpoints : Endpoints}
    {message result : Bytes} (same : endpoints.source.family = endpoints.destination.family)
    (ok : cross convert endpoints message = .ok result) :
    convert (Checksum.combine endpoints.sum
      (Checksum.trailerSum 58 (UInt32.ofNat message.length))) message = .ok result := by
  unfold cross at ok
  rw [Checksum.pseudoHeaderSum_eq same] at ok
  simp only at ok
  split at ok
  next => cases ok
  next converted => cases ok; exact converted

theorem toIpv6_ok {pseudoSum : UInt32} {bytes result : Bytes}
    (ok : toIpv6 pseudoSum bytes = .ok result) :
    ∃ (message : IcmpMessage) (type : UInt8), bytes = message.encode ∧
      typeInIpv6? message.type = some type ∧
      result = (message.retype type message.typeWord
        (Checksum.combine (Wire.word type message.code).toUInt32 pseudoSum)).encode := by
  unfold toIpv6 at ok
  cases readable : IcmpMessage.read bytes with
  | error error => rw [readable] at ok; cases ok
  | ok message =>
      rw [readable] at ok
      simp only [bind, Except.bind] at ok
      split at ok
      next => cases ok
      next type named =>
        cases ok
        exact ⟨message, type, IcmpMessage.eq_encode_of_read readable, named, rfl⟩

theorem toIpv4_ok {pseudoSum : UInt32} {bytes result : Bytes}
    (ok : toIpv4 pseudoSum bytes = .ok result) :
    ∃ (message : IcmpMessage) (type : UInt8), bytes = message.encode ∧
      typeInIpv4? message.type = some type ∧
      result = (message.retype type (Checksum.combine message.typeWord pseudoSum)
        (Wire.word type message.code).toUInt32).encode := by
  unfold toIpv4 at ok
  cases readable : IcmpMessage.read bytes with
  | error error => rw [readable] at ok; cases ok
  | ok message =>
      rw [readable] at ok
      simp only [bind, Except.bind] at ok
      split at ok
      next => cases ok
      next type named =>
        cases ok
        exact ⟨message, type, IcmpMessage.eq_encode_of_read readable, named, rfl⟩

theorem length_toIpv6 {pseudoSum : UInt32} {bytes result : Bytes}
    (ok : toIpv6 pseudoSum bytes = .ok result) : result.length = bytes.length := by
  obtain ⟨message, type, rfl, _, rfl⟩ := toIpv6_ok ok
  exact message.length_retype _ _ _

theorem length_toIpv4 {pseudoSum : UInt32} {bytes result : Bytes}
    (ok : toIpv4 pseudoSum bytes = .ok result) : result.length = bytes.length := by
  obtain ⟨message, type, rfl, _, rfl⟩ := toIpv4_ok ok
  exact message.length_retype _ _ _

/-! ## Whether a message verifies -/

/-- On the way to IPv6 the sum of the pseudo-header enters. -/
theorem total_toIpv6_mod {pseudoSum : UInt32} {bytes result : Bytes}
    (ok : toIpv6 pseudoSum bytes = .ok result) :
    (total result + pseudoSum.toNat) % 65535 = total bytes % 65535 := by
  obtain ⟨message, type, rfl, _, rfl⟩ := toIpv6_ok ok
  have typeBefore := message.toNat_typeWord
  have typeAfter : (Wire.word type message.code).toUInt32.toNat =
      type.toNat * 256 + message.code.toNat := by
    rw [UInt16.toNat_toUInt32, Wire.toNat_word]
  have entered := combine_mod (Wire.word type message.code).toUInt32 pseudoSum
  have updated := adjust_mod message.checksum message.typeWord
    (combine (Wire.word type message.code).toUInt32 pseudoSum)
  have moved := message.total_retype type message.typeWord
    (combine (Wire.word type message.code).toUInt32 pseudoSum)
  omega

/-- On the way to IPv4 the sum of the pseudo-header leaves. -/
theorem total_toIpv4_mod {pseudoSum : UInt32} {bytes result : Bytes}
    (ok : toIpv4 pseudoSum bytes = .ok result) :
    total result % 65535 = (total bytes + pseudoSum.toNat) % 65535 := by
  obtain ⟨message, type, rfl, _, rfl⟩ := toIpv4_ok ok
  have typeBefore := message.toNat_typeWord
  have typeAfter : (Wire.word type message.code).toUInt32.toNat =
      type.toNat * 256 + message.code.toNat := by
    rw [UInt16.toNat_toUInt32, Wire.toNat_word]
  have left := combine_mod message.typeWord pseudoSum
  have updated := adjust_mod message.checksum (combine message.typeWord pseudoSum)
    (Wire.word type message.code).toUInt32
  have moved := message.total_retype type (combine message.typeWord pseudoSum)
    (Wire.word type message.code).toUInt32
  omega

/-- A message for IPv4 that verifies does so in IPv6 too, whatever the endpoints are there. -/
theorem verifies_toIpv6 {endpoints : Endpoints} {bytes result : Bytes}
    (same : endpoints.source.family = endpoints.destination.family)
    (short : bytes.length ≤ 65535) (valid : verifiesAlone bytes = true)
    (ok : cross toIpv6 endpoints bytes = .ok result) :
    verifies endpoints (UpperProtocol.icmp.number .inet6) result = true := by
  have converted := cross_ok same ok
  have length := length_toIpv6 converted
  have residue := total_toIpv6_mod converted
  have pseudo := combine_mod endpoints.sum (trailerSum 58 (UInt32.ofNat bytes.length))
  obtain ⟨_, multiple⟩ := (verifiesAlone_iff (by omega)).mp valid
  rw [verifies_iff (by decide) (by omega), length]
  show (_ + (trailerSum 58 _).toNat + _) % 65535 = 0
  omega

/-- The message that becomes zero throughout on the way to IPv4: a reply of which only the type
and the checksum are set. -/
structure BlankReply (message : IcmpMessage) : Prop where
  type : message.type = echoReplyV6
  code : message.code = 0
  parameter : message.parameter = 0
  data : ∀ byte ∈ message.data, byte = 0
  checksum : message.checksum ≠ 0xffff

theorem type_of_typeInIpv4?_zero {type : UInt8} (named : typeInIpv4? type = some 0) :
    type = echoReplyV6 := by
  unfold typeInIpv4? at named
  split at named
  next => cases named
  next =>
    split at named
    next reply => exact reply
    next => cases named

/-- Of the messages whose sum the pseudo-header makes up to a multiple of 65535, only the blank
replies are converted to zeros. -/
theorem total_toIpv4_eq_zero_iff {pseudoSum : UInt32} {message : IcmpMessage} {result : Bytes}
    (multiple : (total message.encode + pseudoSum.toNat) % 65535 = 0)
    (ok : toIpv4 pseudoSum message.encode = .ok result) :
    total result = 0 ↔ BlankReply message := by
  obtain ⟨same, type, encoded, named, rfl⟩ := toIpv4_ok ok
  obtain rfl := IcmpMessage.encode_inj encoded
  have sum := message.total_encode
  have typeBefore := message.toNat_typeWord
  have left := combine_mod message.typeWord pseudoSum
  have parameterZero := total_bytes32_eq_zero_iff message.parameter
  have dataZero := total_eq_zero_iff message.data
  rw [IcmpMessage.total_encode]
  simp only [IcmpMessage.retype]
  constructor
  · intro zero
    obtain rfl : type = 0 := UInt8.toNat_inj.mp (by rw [UInt8.toNat_zero]; omega)
    have code : message.code = 0 := UInt8.toNat_inj.mp (by rw [UInt8.toNat_zero]; omega)
    have reply := type_of_typeInIpv4?_zero named
    have replyWord : message.type.toNat = 129 := by rw [reply]; rfl
    have noWord : (Wire.word 0 0).toUInt32 = 0 := by decide
    rw [code, noWord] at zero
    have cleared : adjust message.checksum (combine message.typeWord pseudoSum) 0 = 0 :=
      UInt16.toNat_inj.mp (by rw [UInt16.toNat_zero]; omega)
    refine ⟨reply, code, parameterZero.mp (by omega), dataZero.mp (by omega), fun full => ?_⟩
    -- A stored 0xffff is the form of zero that survives, because the words that leave have it too.
    refine ((adjust_zero_eq_zero_iff _ _).mp cleared).2 ⟨full, (fold_eq_max_iff _).mpr ?_⟩
    have notEmpty := combine_eq_zero_iff message.typeWord pseudoSum
    have stored : message.checksum.toNat = 65535 := by rw [full]; rfl
    omega
  · intro blank
    obtain rfl : type = 0 := by
      rw [blank.type] at named
      exact (Option.some.inj named).symm
    have replyWord : message.type.toNat = 129 := by rw [blank.type]; rfl
    have parameter := parameterZero.mpr blank.parameter
    have data := dataZero.mpr blank.data
    have cleared : adjust message.checksum (combine message.typeWord pseudoSum) 0 = 0 :=
      (adjust_zero_eq_zero_iff _ _).mpr ⟨by omega, fun both => blank.checksum both.1⟩
    rw [blank.code]
    show _ + _ + (adjust message.checksum (combine message.typeWord pseudoSum) 0).toNat + _ + _ = 0
    rw [cleared, parameter, data]
    rfl

/-- A message for IPv6 that verifies does so in IPv4 too, unless it is a blank reply. -/
theorem verifiesAlone_toIpv4_iff {endpoints : Endpoints} {message : IcmpMessage}
    {result : Bytes} (same : endpoints.source.family = endpoints.destination.family)
    (short : message.encode.length ≤ 65535)
    (valid : verifies endpoints (UpperProtocol.icmp.number .inet6) message.encode = true)
    (ok : cross toIpv4 endpoints message.encode = .ok result) :
    verifiesAlone result = true ↔ ¬ BlankReply message := by
  have converted := cross_ok same ok
  have length := length_toIpv4 converted
  have residue := total_toIpv4_mod converted
  have pseudo := combine_mod endpoints.sum (trailerSum 58 (UInt32.ofNat message.encode.length))
  have multiple := (verifies_iff (by decide) short).mp valid
  have multiple : (total message.encode + (combine endpoints.sum
      (trailerSum 58 (UInt32.ofNat message.encode.length))).toNat) % 65535 = 0 := by
    change (_ + (trailerSum 58 _).toNat + _) % 65535 = 0 at multiple
    omega
  rw [verifiesAlone_iff (by omega), ← total_toIpv4_eq_zero_iff multiple converted]
  exact ⟨fun verified => verified.1, fun notZero => ⟨notZero, by omega⟩⟩

end Icmp

end FamilyGateway
