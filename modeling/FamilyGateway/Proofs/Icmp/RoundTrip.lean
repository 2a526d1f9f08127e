import FamilyGateway.Proofs.Translator.Conversion

/-!
# Echo messages there and back

The two conversions of echo messages are one procedure with different parameters: which
type becomes which, and what leaves the sum and what enters it besides the first word
(`Icmp.Retyping`). They take each other back, because what leaves on the one way enters on
the other (`Icmp.Retyping.TakesBack`).

So a message that is converted and converted back under the same pseudo-header is what it
was, byte by byte, whether its checksum was right or wrong. The one exception is a stored
checksum of 0xffff, which comes back as the other form of zero (`Icmp.echo_restored`).

A message may also be converted where it stands, with the new type and the new checksum
written over the old ones (`Icmp.Retyping.rewrite`). All that can be refused is refused
before anything is written.
-/

set_option autoImplicit false

namespace FamilyGateway.Icmp

open Checksum (combine adjust adjust_adjust)
open Segment (checksumAt? putChecksum)

/-- How echo messages of one version of ICMP are made into those of the other. -/
structure Retyping where
  /-- The type that a message takes, if it is converted at all. -/
  counterpart? : UInt8 → Option UInt8
  /-- Why a message of another type is refused. -/
  refusal : UInt8 → IcmpError
  /-- What leaves the sum when the first word of the message leaves it. -/
  leaving : UInt32 → UInt32
  /-- What enters the sum when the new first word of the message enters it. -/
  entering : UInt32 → UInt32

namespace Retyping

/-- The way to IPv6, where the sum of the pseudo-header enters. -/
def intoIpv6 (pseudoSum : UInt32) : Retyping where
  counterpart? := typeInIpv6?
  refusal := .unsupported
  leaving word := word
  entering word := combine word pseudoSum

/-- The way to IPv4, where the sum of the pseudo-header leaves. -/
def intoIpv4 (pseudoSum : UInt32) : Retyping where
  counterpart? := typeInIpv4?
  refusal := .unsupportedV6
  leaving word := combine word pseudoSum
  entering word := word

variable (retyping : Retyping)

/-- The message with another type and the checksum that goes with it. -/
def apply (message : IcmpMessage) (type : UInt8) : IcmpMessage :=
  message.retype type (retyping.leaving message.typeWord)
    (retyping.entering (Wire.word type message.code).toUInt32)

/-- The message that some bytes become. -/
def convert (bytes : Bytes) : Except IcmpError Bytes := do
  let message ← IcmpMessage.read bytes
  match retyping.counterpart? message.type with
  | none => .error (retyping.refusal message.type)
  | some type => .ok (retyping.apply message type).encode

theorem convert_intoIpv6 (pseudoSum : UInt32) :
    (intoIpv6 pseudoSum).convert = toIpv6 pseudoSum := by
  funext bytes
  unfold convert toIpv6
  cases IcmpMessage.read bytes with
  | error error => rfl
  | ok message => rfl

theorem convert_intoIpv4 (pseudoSum : UInt32) :
    (intoIpv4 pseudoSum).convert = toIpv4 pseudoSum := by
  funext bytes
  unfold convert toIpv4
  cases IcmpMessage.read bytes with
  | error error => rfl
  | ok message => rfl

theorem convert_of_short {bytes : Bytes} (short : bytes.length < 8) :
    retyping.convert bytes = .error (.truncated bytes.length) := by
  unfold convert
  rw [IcmpMessage.read_of_short short]
  rfl

theorem convert_encode (message : IcmpMessage) :
    retyping.convert message.encode =
      match retyping.counterpart? message.type with
      | none => .error (retyping.refusal message.type)
      | some type => .ok (retyping.apply message type).encode := by
  unfold convert
  rw [IcmpMessage.read_encode]
  rfl

/-! ## In place -/

/-- Converts the message that the bytes are, by writing into them. A message that is refused is left
as it is by then. -/
def rewrite : EStateM IcmpError Bytes Unit := do
  match IcmpMessage.read (← get) with
  | .error error => throw error
  | .ok message =>
    match retyping.counterpart? message.type with
    | none => throw (retyping.refusal message.type)
    | some type =>
      modify fun bytes => bytes.set 0 type
      modify (putChecksum 2 (retyping.apply message type).checksum)

/-- The program does to the bytes of a message what the function makes of them. It leaves a message
that the function refuses as it was. -/
def Performs (program : EStateM IcmpError Bytes Unit)
    (convert : Bytes → Except IcmpError Bytes) : Prop :=
  ∀ bytes, program.run bytes =
    match convert bytes with
    | .ok result => .ok () result
    | .error error => .error error bytes

/-- Writing the type and the checksum is all that a conversion does. -/
theorem performs_rewrite : Performs retyping.rewrite retyping.convert := by
  intro bytes
  unfold rewrite
  cases readable : IcmpMessage.read bytes with
  | error error =>
      have refused : retyping.convert bytes = .error error := by
        unfold convert
        rw [readable]
        rfl
      rw [refused]
      simp [readable]
  | ok message =>
      obtain rfl := IcmpMessage.eq_encode_of_read readable
      rw [convert_encode]
      cases named : retyping.counterpart? message.type with
      | none => simp [readable, named]
      | some type =>
          have written : putChecksum 2 (retyping.apply message type).checksum
              (message.encode.set 0 type) = (retyping.apply message type).encode := rfl
          simp [readable, named, written]

/-! ## Back again -/

/-- One conversion takes another one back: it gives every message its old type, and what entered
the sum leaves it. -/
structure TakesBack (back there : Retyping) : Prop where
  type {type converted : UInt8} (named : there.counterpart? type = some converted) :
    back.counterpart? converted = some type
  leaving : back.leaving = there.entering
  entering : back.entering = there.leaving

theorem takesBack_intoIpv4 (pseudoSum : UInt32) :
    (intoIpv4 pseudoSum).TakesBack (intoIpv6 pseudoSum) where
  type named := by
    rcases typeInIpv6?_cases named with ⟨rfl, rfl⟩ | ⟨rfl, rfl⟩ <;> rfl
  leaving := rfl
  entering := rfl

theorem takesBack_intoIpv6 (pseudoSum : UInt32) :
    (intoIpv6 pseudoSum).TakesBack (intoIpv4 pseudoSum) where
  type named := by
    rcases typeInIpv4?_cases named with ⟨rfl, rfl⟩ | ⟨rfl, rfl⟩ <;> rfl
  leaving := rfl
  entering := rfl

/-- A message that is converted and converted back has its old parts, and a checksum of zero in the
form 0. -/
theorem TakesBack.apply_apply {back there : Retyping} (takesBack : back.TakesBack there)
    (message : IcmpMessage) (type : UInt8) :
    back.apply (there.apply message type) message.type =
      { message with checksum := if message.checksum = 0xffff then 0 else message.checksum } := by
  show IcmpMessage.mk _ _ (adjust (adjust message.checksum _ _) _ _) _ _ = _
  rw [takesBack.leaving, takesBack.entering]
  exact congrArg (IcmpMessage.mk _ _ · _ _) (adjust_adjust _ _ _)

end Retyping

/-! ## Byte by byte -/

/-- The bytes of a message up to its checksum, and the rest of them. -/
theorem encode_eq_cons (message : IcmpMessage) :
    message.encode = message.type :: message.code :: Wire.high message.checksum ::
      Wire.low message.checksum :: (Wire.bytes32 message.parameter ++ message.data) := rfl

theorem checksumAt?_encode (message : IcmpMessage) :
    checksumAt? 2 message.encode = some message.checksum := by
  rw [encode_eq_cons]
  exact congrArg some (Wire.word_high_low message.checksum)

/-- Conversion changes the type and the checksum only. -/
theorem getElem?_apply (retyping : Retyping) (message : IcmpMessage) (type : UInt8) {index : Nat}
    (notType : index ≠ 0) (notFirst : index ≠ 2) (notSecond : index ≠ 3) :
    (retyping.apply message type).encode[index]? = message.encode[index]? := by
  simp only [encode_eq_cons, Retyping.apply, IcmpMessage.retype]
  obtain _ | _ | _ | _ | later := index
  · exact absurd rfl notType
  · simp only [List.getElem?_cons_succ, List.getElem?_cons_zero]
  · exact absurd rfl notFirst
  · exact absurd rfl notSecond
  · simp only [List.getElem?_cons_succ]

/-- What a conversion makes of some bytes, and what another one makes of the result. The pairs are
the types that are converted and what they become. -/
structure Restores (there back : Bytes → Except IcmpError Bytes) (pairs : List (UInt8 × UInt8))
    (refusal : UInt8 → IcmpError) (bytes : Bytes) : Prop where
  short : bytes.length < 8 → there bytes = .error (.truncated bytes.length)
  other (type : UInt8) : 8 ≤ bytes.length → bytes.head? = some type →
    (∀ pair ∈ pairs, pair.1 ≠ type) → there bytes = .error (refusal type)
  /-- Both conversions succeed, and the second one gives the bytes back, except for a checksum of
  0xffff. In between only the type and the checksum are different. -/
  restored : 8 ≤ bytes.length → ∀ pair ∈ pairs, bytes.head? = some pair.1 →
    ∃ between, there bytes = .ok between ∧ between.length = bytes.length ∧
      between.head? = some pair.2 ∧
      (∀ index, index ≠ 0 → index ≠ 2 → index ≠ 3 → between[index]? = bytes[index]?) ∧
      back between =
        .ok (if checksumAt? 2 bytes = some 0xffff then putChecksum 2 0 bytes else bytes)

/-- A conversion that can be taken back, given which types it converts. -/
theorem Retyping.TakesBack.restores {back there : Retyping} (takesBack : back.TakesBack there)
    {pairs : List (UInt8 × UInt8)}
    (converts : ∀ pair ∈ pairs, there.counterpart? pair.1 = some pair.2)
    (refuses : ∀ type, (∀ pair ∈ pairs, pair.1 ≠ type) → there.counterpart? type = none)
    (bytes : Bytes) : Restores there.convert back.convert pairs there.refusal bytes where
  short := there.convert_of_short
  other type long first unlisted := by
    obtain ⟨message, readable⟩ := IcmpMessage.exists_read_iff.mpr long
    obtain rfl := IcmpMessage.eq_encode_of_read readable
    obtain rfl : message.type = type := Option.some.inj first
    rw [convert_encode, refuses message.type unlisted]
  restored long pair listed first := by
    obtain ⟨message, readable⟩ := IcmpMessage.exists_read_iff.mpr long
    obtain rfl := IcmpMessage.eq_encode_of_read readable
    have same : message.type = pair.1 := Option.some.inj first
    have named : there.counterpart? message.type = some pair.2 := by
      rw [same]
      exact converts pair listed
    have back : back.convert (there.apply message pair.2).encode = .ok
        { message with
          checksum := if message.checksum = 0xffff then 0 else message.checksum }.encode := by
      rw [convert_encode, show (there.apply message pair.2).type = pair.2 from rfl,
        takesBack.type named, ← takesBack.apply_apply message pair.2]
    refine ⟨(there.apply message pair.2).encode, ?_, message.length_retype _ _ _, rfl,
      fun index => getElem?_apply there message pair.2, back.trans ?_⟩
    · rw [convert_encode, named]
    · simp only [checksumAt?_encode, Option.some.injEq]
      split <;> rfl

/-- The types of echo messages for IPv4, and those for IPv6 that they become. -/
def echoPairs : List (UInt8 × UInt8) := [(echoRequest, echoRequestV6), (echoReply, echoReplyV6)]

/-- **Echo messages come back as they were**, whichever way they go first and whatever their
checksum and the sum of the pseudo-header are. A checksum of 0xffff comes back as 0, and what is
no echo message is refused and left alone. -/
theorem echo_restored (pseudoSum : UInt32) (bytes : Bytes) :
    Restores (toIpv6 pseudoSum) (toIpv4 pseudoSum) echoPairs .unsupported bytes ∧
      Restores (toIpv4 pseudoSum) (toIpv6 pseudoSum) (echoPairs.map Prod.swap) .unsupportedV6
        bytes ∧
      Retyping.Performs (Retyping.intoIpv6 pseudoSum).rewrite (toIpv6 pseudoSum) ∧
      Retyping.Performs (Retyping.intoIpv4 pseudoSum).rewrite (toIpv4 pseudoSum) := by
  rw [← Retyping.convert_intoIpv6, ← Retyping.convert_intoIpv4]
  refine ⟨(Retyping.takesBack_intoIpv4 pseudoSum).restores ?_ ?_ bytes,
    (Retyping.takesBack_intoIpv6 pseudoSum).restores ?_ ?_ bytes,
    Retyping.performs_rewrite _, Retyping.performs_rewrite _⟩
  · show ∀ pair ∈ echoPairs, typeInIpv6? pair.1 = some pair.2
    exact List.forall_mem_cons.mpr ⟨rfl, List.forall_mem_singleton.mpr rfl⟩
  · intro type unlisted
    refine Option.eq_none_iff_forall_not_mem.mpr fun converted named => ?_
    rcases typeInIpv6?_cases named with ⟨rfl, -⟩ | ⟨rfl, -⟩
    · exact unlisted (echoRequest, echoRequestV6) (by decide) rfl
    · exact unlisted (echoReply, echoReplyV6) (by decide) rfl
  · show ∀ pair ∈ echoPairs.map Prod.swap, typeInIpv4? pair.1 = some pair.2
    exact List.forall_mem_cons.mpr ⟨rfl, List.forall_mem_singleton.mpr rfl⟩
  · intro type unlisted
    refine Option.eq_none_iff_forall_not_mem.mpr fun converted named => ?_
    rcases typeInIpv4?_cases named with ⟨rfl, -⟩ | ⟨rfl, -⟩
    · exact unlisted (echoRequestV6, echoRequest) (by decide) rfl
    · exact unlisted (echoReplyV6, echoReply) (by decide) rfl

/-- The one checksum that is not given back. -/
example :
    (toIpv6 7 [8, 0, 0xff, 0xff, 0, 0, 0, 0]).bind (toIpv4 7) =
      .ok [8, 0, 0, 0, 0, 0, 0, 0] := rfl

end FamilyGateway.Icmp
