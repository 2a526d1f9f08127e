import FamilyGateway.Proofs.Icmp.RoundTrip
import FamilyGateway.Proofs.Treatment.Checked

/-!
# Payloads that are rewritten where they stand

A payload that goes on under new addresses is a copy into which a checksum is written, and for an
echo message a type as well. Here both are done step by step: the stored checksum is looked up,
the sums are added, and the new bytes are written over the old ones (`Checked.readdress`,
`Checked.retype`). What comes out is what the functions on whole payloads say, and none of the
steps goes wrong.

There is one payload for each of the three ways (`Checked.payloadToIpv6`,
`Checked.payloadToIpv4`, `Checked.payloadWithinIpv6`). The only thing to know about it is that
it is short enough for its words to be summed up.
-/

set_option autoImplicit false

namespace FamilyGateway.Checked

/-! ## Words in a payload -/

/-- Two bytes at an offset are there exactly if there is a checksum. -/
theorem part?_two (bytes : Bytes) (offset : Nat) :
    part? bytes offset (offset + 2) = (Segment.checksumAt? offset bytes).map Wire.bytes16 := by
  rw [part?, Nat.add_sub_cancel_left]
  split
  next inside =>
    obtain ⟨stored, found⟩ := Segment.exists_checksumAt? inside.2
    rw [found, Option.map_some, Option.some_inj]
    unfold Segment.checksumAt? at found
    split at found
    next first second rest tail =>
      cases found
      rw [tail, Wire.bytes16, Wire.high_word, Wire.low_word]
      rfl
    next => cases found
  next outside =>
    cases found : Segment.checksumAt? offset bytes with
    | none => rfl
    | some stored =>
        exact absurd ⟨Nat.le_add_right _ _, Segment.le_length_of_checksumAt? found⟩ outside

theorem wordAt_bytes16 (value : UInt16) : wordAt (Wire.bytes16 value) 0 = .ok value :=
  congrArg Except.ok (Wire.word_high_low value)

/-- Writing a word over a word that is there. -/
theorem write_word {bytes : Bytes} {offset : Nat} (inside : offset + 2 ≤ bytes.length)
    (value : UInt16) :
    write bytes offset (offset + 2) (Wire.bytes16 value) =
      .ok (Segment.putChecksum offset value bytes) :=
  write_eq (Nat.le_add_right _ _) inside (Nat.add_sub_cancel_left ..).symm

/-! ## Segments -/

/-- The sum of the words of both addresses. -/
def pairSum (endpoints : Endpoints) : Option UInt32 := do
  let source ← Checksum.Checked.addressSum endpoints.source
  let destination ← Checksum.Checked.addressSum endpoints.destination
  Checksum.Checked.combine source destination

theorem pairSum_eq (endpoints : Endpoints) : pairSum endpoints = some endpoints.sum :=
  Option.bind_eq_some_iff.mpr ⟨_, Checksum.Checked.addressSum_eq _, Option.bind_eq_some_iff.mpr
    ⟨_, Checksum.Checked.addressSum_eq _, Checksum.Checked.combine_eq _ _⟩⟩

/-- A checksum for a segment in which none is stored. -/
def fullChecksum (protocol : UpperProtocol) (after : Endpoints) (segment : Bytes) :
    Checked UInt16 := do
  match ← ofOption (Checksum.Checked.upperLayer after.source after.destination
      (protocol.number after.source.family) segment) with
  | .ok checksum => .ok checksum
  | .error error => drop (.checksum error)

/-- A stored checksum that is brought to new addresses. -/
def updatedChecksum (stored : UInt16) (before after : Endpoints) : Checked UInt16 := do
  let before ← ofOption (pairSum before)
  let after ← ofOption (pairSum after)
  ofOption (Checksum.Checked.adjust stored before after)

/-- Writes the checksum of a segment in the form in which its protocol stores it. -/
def writeChecksum (protocol : UpperProtocol) (checksum : UInt16) (segment : Bytes) :
    Checked Bytes :=
  write segment protocol.checksumOffset (protocol.checksumOffset + 2)
    (Wire.bytes16 (Segment.storedForm protocol checksum))

/-- The segment as it must look once its addresses are replaced. -/
def readdress (protocol : UpperProtocol) (before after : Endpoints) (fragmented : Bool)
    (segment : Bytes) : Checked Bytes :=
  if segment = [] then .ok segment
  else
    match part? segment protocol.checksumOffset (protocol.checksumOffset + 2) with
    | none => drop (.truncated protocol.headerPart)
    | some field => do
      let stored ← wordAt field 0
      if protocol = .udp ∧ stored = 0 then
        if before.source.family = .inet ∧ after.source.family = .inet6 then
          if fragmented then drop .zeroUdpChecksum
          else do
            let checksum ← fullChecksum .udp after segment
            writeChecksum protocol checksum segment
        else .ok segment
      else do
        let checksum ← updatedChecksum stored before after
        writeChecksum protocol checksum segment

theorem updatedChecksum_eq (stored : UInt16) (before after : Endpoints) :
    updatedChecksum stored before after = .ok (Checksum.adjust stored before.sum after.sum) := by
  rw [updatedChecksum, pairSum_eq, pairSum_eq]
  exact congrArg ofOption (Checksum.Checked.adjust_eq stored before.sum after.sum)

theorem fullChecksum_eq (protocol : UpperProtocol) (after : Endpoints) {segment : Bytes}
    (short : segment.length ≤ 65535) :
    fullChecksum protocol after segment =
      match Checksum.upperLayer after.source after.destination
          (protocol.number after.source.family) segment with
      | .ok checksum => .ok checksum
      | .error error => drop (.checksum error) := by
  rw [fullChecksum, Checksum.Checked.upperLayer_eq _ _ _ (Nat.le_trans short (by decide))]
  rfl

theorem readdress_eq (protocol : UpperProtocol) (before after : Endpoints) (fragmented : Bool)
    {segment : Bytes} (short : segment.length ≤ 65535) :
    readdress protocol before after fragmented segment =
      ofResult (Segment.readdress protocol before after fragmented segment) := by
  unfold readdress Segment.readdress
  split
  next => rfl
  next =>
    simp only [part?_two]
    cases found : Segment.checksumAt? protocol.checksumOffset segment with
    | none => rfl
    | some stored =>
        have write (checksum : UInt16) : writeChecksum protocol checksum segment =
            .ok (Segment.putChecksum protocol.checksumOffset
              (Segment.storedForm protocol checksum) segment) :=
          write_word (Segment.le_length_of_checksumAt? found) _
        show (wordAt (Wire.bytes16 stored) 0 >>= _) = _
        rw [bind_ok (wordAt_bytes16 stored)]
        dsimp only
        split
        next =>
          split
          next =>
            split
            next => rfl
            next =>
              rw [fullChecksum_eq _ _ short]
              cases Checksum.upperLayer after.source after.destination
                  (UpperProtocol.udp.number after.source.family) segment with
              | ok checksum => exact write checksum
              | error error => rfl
          next => rfl
        next =>
          rw [bind_ok (updatedChecksum_eq stored before after)]
          exact write _

/-! ## Echo messages -/

/-- A message with another type and the checksum that goes with it, if its type is one of those that
are converted. -/
def retype (counterpart? : UInt8 → Option UInt8) (refusal : UInt8 → IcmpError)
    (leaving entering : UInt32 → Option UInt32) (message : Bytes) : Checked Bytes :=
  if message.length < IcmpMessage.headerLength then drop (.icmp (.truncated message.length))
  else do
    let type ← byteAt message 0
    match counterpart? type with
    | none => drop (.icmp (refusal type))
    | some converted => do
      let word ← wordAt message 0
      let code ← byteAt message 1
      let stored ← wordAt message 2
      let before ← ofOption (leaving word.toUInt32)
      let after ← ofOption (entering (Wire.word converted code).toUInt32)
      let checksum ← ofOption (Checksum.Checked.adjust stored before after)
      let retyped ← put message 0 converted
      write retyped 2 4 (Wire.bytes16 checksum)

/-- Where a message may be refused, and where it is a message of a packet that is dropped then. -/
def ofConversion : Except IcmpError Bytes → Checked Bytes
  | .ok payload => .ok payload
  | .error error => drop (.icmp error)

theorem retype_eq (retyping : Icmp.Retyping) {leaving entering : UInt32 → Option UInt32}
    (leaves : ∀ word, leaving word = some (retyping.leaving word))
    (enters : ∀ word, entering word = some (retyping.entering word)) (message : Bytes) :
    retype retyping.counterpart? retyping.refusal leaving entering message =
      ofConversion (retyping.convert message) := by
  unfold retype
  split
  next short =>
    rw [retyping.convert_of_short short]
    rfl
  next long =>
    obtain ⟨parsed, readable⟩ := IcmpMessage.exists_read_iff.mpr (Nat.le_of_not_lt long)
    obtain rfl := IcmpMessage.eq_encode_of_read readable
    have type : byteAt parsed.encode 0 = .ok parsed.type := rfl
    rw [retyping.convert_encode, bind_ok type]
    cases retyping.counterpart? parsed.type with
    | none => rfl
    | some converted =>
        have word : wordAt parsed.encode 0 = .ok (Wire.word parsed.type parsed.code) := rfl
        have code : byteAt parsed.encode 1 = .ok parsed.code := rfl
        have stored : wordAt parsed.encode 2 = .ok parsed.checksum :=
          wordAt_bytes16 parsed.checksum
        simp only
        rw [bind_ok word, bind_ok code, bind_ok stored, leaves, enters]
        simp only [ofOption, Checksum.Checked.adjust_eq]
        rfl

/-- The sum of the pseudo-header of a message between two addresses of IPv6. -/
def pseudoSum (source destination : Ipv6Address) (message : Bytes) : Checked UInt32 := do
  match ← ofOption (Checksum.Checked.pseudoHeaderSum (.v6 source) (.v6 destination)
      (UpperProtocol.icmp.number .inet6) (UInt32.ofNat message.length)) with
  | .ok sum => .ok sum
  | .error error => drop (.checksum error)

theorem pseudoSum_eq (source destination : Ipv6Address) (message : Bytes) :
    pseudoSum source destination message =
      match Checksum.pseudoHeaderSum (.v6 source) (.v6 destination)
          (UpperProtocol.icmp.number .inet6) (UInt32.ofNat message.length) with
      | .ok sum => .ok sum
      | .error error => drop (.checksum error) := by
  rw [pseudoSum, Checksum.Checked.pseudoHeaderSum_eq]
  rfl

/-- A message that takes the sum of its new pseudo-header in. -/
def echoToIpv6 (source destination : Ipv6Address) (message : Bytes) : Checked Bytes := do
  let sum ← pseudoSum source destination message
  retype Icmp.typeInIpv6? .unsupported some (Checksum.Checked.combine · sum) message

/-- A message that leaves the sum of its old pseudo-header out. -/
def echoToIpv4 (source destination : Ipv6Address) (message : Bytes) : Checked Bytes := do
  let sum ← pseudoSum source destination message
  retype Icmp.typeInIpv4? .unsupportedV6 (Checksum.Checked.combine · sum) some message

theorem echoToIpv6_eq (source destination : Ipv6Address) (message : Bytes) :
    echoToIpv6 source destination message =
      match Checksum.pseudoHeaderSum (.v6 source) (.v6 destination)
          (UpperProtocol.icmp.number .inet6) (UInt32.ofNat message.length) with
      | .error error => drop (.checksum error)
      | .ok sum => ofConversion (Icmp.toIpv6 sum message) := by
  rw [echoToIpv6, pseudoSum_eq]
  cases Checksum.pseudoHeaderSum (.v6 source) (.v6 destination)
      (UpperProtocol.icmp.number .inet6) (UInt32.ofNat message.length) with
  | error error => rfl
  | ok sum =>
      have converts := retype_eq (.intoIpv6 sum) (fun _ => rfl)
        (fun word => Checksum.Checked.combine_eq word sum) message
      rw [Icmp.Retyping.convert_intoIpv6] at converts
      exact converts

theorem echoToIpv4_eq (source destination : Ipv6Address) (message : Bytes) :
    echoToIpv4 source destination message =
      match Checksum.pseudoHeaderSum (.v6 source) (.v6 destination)
          (UpperProtocol.icmp.number .inet6) (UInt32.ofNat message.length) with
      | .error error => drop (.checksum error)
      | .ok sum => ofConversion (Icmp.toIpv4 sum message) := by
  rw [echoToIpv4, pseudoSum_eq]
  cases Checksum.pseudoHeaderSum (.v6 source) (.v6 destination)
      (UpperProtocol.icmp.number .inet6) (UInt32.ofNat message.length) with
  | error error => rfl
  | ok sum =>
      have converts := retype_eq (.intoIpv4 sum)
        (fun word => Checksum.Checked.combine_eq word sum) (fun _ => rfl) message
      rw [Icmp.Retyping.convert_intoIpv4] at converts
      exact converts

/-! ## The three ways -/

/-- The payload of a packet as IPv6 carries it. -/
def payloadToIpv6 (datagram : Ipv4Datagram) (protocol : UpperProtocol)
    (source destination : Ipv6Address) : Checked Bytes :=
  if datagram.fields.fragmentOffset ≠ 0 then .ok datagram.payload
  else
    match protocol with
    | .icmp => echoToIpv6 source destination datagram.payload
    | protocol =>
      readdress protocol
        ⟨.v4 datagram.fields.source, .v4 datagram.fields.destination⟩
        ⟨.v6 source, .v6 destination⟩ datagram.isFragment datagram.payload

/-- The payload of a packet as IPv4 carries it. -/
def payloadToIpv4 (datagram : Ipv6Datagram) (source destination : Ipv4Address) : Checked Bytes :=
  if datagram.fragmentOffset ≠ 0 then .ok datagram.payload
  else
    match datagram.protocol with
    | .icmp =>
      echoToIpv4 datagram.fields.source datagram.fields.destination datagram.payload
    | protocol =>
      readdress protocol
        ⟨.v6 datagram.fields.source, .v6 datagram.fields.destination⟩
        ⟨.v4 source, .v4 destination⟩ datagram.isFragment datagram.payload

/-- The payload of a packet under other addresses of IPv6. -/
def payloadWithinIpv6 (datagram : Ipv6Datagram) (source destination : Ipv6Address) :
    Checked Bytes :=
  if datagram.fragmentOffset ≠ 0 then .ok datagram.payload
  else
    readdress datagram.protocol
      ⟨.v6 datagram.fields.source, .v6 datagram.fields.destination⟩
      ⟨.v6 source, .v6 destination⟩ datagram.isFragment datagram.payload

theorem payloadToIpv6_eq {datagram : Ipv4Datagram} (short : datagram.payload.length ≤ 65535)
    (protocol : UpperProtocol) (source destination : Ipv6Address) :
    payloadToIpv6 datagram protocol source destination =
      ofResult (FourToSix.convertPayload datagram protocol source destination) := by
  unfold payloadToIpv6 FourToSix.convertPayload
  split
  next => rfl
  next =>
    cases protocol with
    | tcp => exact readdress_eq .tcp _ _ _ short
    | udp => exact readdress_eq .udp _ _ _ short
    | icmp =>
        refine (echoToIpv6_eq source destination datagram.payload).trans ?_
        cases Checksum.pseudoHeaderSum (.v6 source) (.v6 destination)
            (UpperProtocol.icmp.number .inet6) (UInt32.ofNat datagram.payload.length) with
        | error error => rfl
        | ok sum =>
            simp only
            cases Icmp.toIpv6 sum datagram.payload <;> rfl

theorem payloadToIpv4_eq {datagram : Ipv6Datagram} (short : datagram.payload.length ≤ 65535)
    (source destination : Ipv4Address) :
    payloadToIpv4 datagram source destination =
      ofResult (SixToFour.convertPayload datagram source destination) := by
  unfold payloadToIpv4 SixToFour.convertPayload
  split
  next => rfl
  next =>
    cases datagram.protocol with
    | tcp => exact readdress_eq .tcp _ _ _ short
    | udp => exact readdress_eq .udp _ _ _ short
    | icmp =>
        refine (echoToIpv4_eq datagram.fields.source datagram.fields.destination
          datagram.payload).trans ?_
        simp only
        cases Checksum.pseudoHeaderSum (.v6 datagram.fields.source)
            (.v6 datagram.fields.destination) (UpperProtocol.icmp.number .inet6)
            (UInt32.ofNat datagram.payload.length) with
        | error error => rfl
        | ok sum =>
            simp only
            cases Icmp.toIpv4 sum datagram.payload <;> rfl

theorem payloadWithinIpv6_eq {datagram : Ipv6Datagram}
    (short : datagram.payload.length ≤ 65535) (source destination : Ipv6Address) :
    payloadWithinIpv6 datagram source destination =
      ofResult (SixToSix.convertPayload datagram source destination) := by
  unfold payloadWithinIpv6 SixToSix.convertPayload
  split
  next => rfl
  next => exact readdress_eq _ _ _ _ short

end FamilyGateway.Checked
