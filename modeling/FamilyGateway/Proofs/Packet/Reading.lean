import FamilyGateway.Translator.Inbound

/-!
# Reading packets

Taking a packet apart undoes putting it together: a header in front of a payload
whose length it declares is read as that header and that payload, over IPv4
(`Ipv4Datagram.read_emit`) and over IPv6 without and with a Fragment header
(`Ipv6Datagram.read_plain`, `Ipv6Datagram.read_fragment`).

Conversely a packet that was read obeys the rules of its format: the payload is as
long as declared, the fragment offset is a multiple of eight, and over IPv6 the
protocol is the one that the last header announces (`Ipv6Datagram.Sound`).
-/

set_option autoImplicit false

namespace FamilyGateway

/-- A protocol is named by its number only. -/
theorem UpperProtocol.eq_number_of_ofNumber? {family : Family} {value : UInt8}
    {protocol : UpperProtocol} (named : ofNumber? family value = some protocol) :
    value = protocol.number family := by
  unfold ofNumber? at named
  split at named
  next same => cases named; exact same
  next =>
    split at named
    next same => cases named; exact same
    next =>
      split at named
      next same => cases named; exact same
      next => cases named

/-! ## IPv4 -/

/-- Version and header length share the first byte, which is the same in every header without
options. -/
theorem Ipv4Fields.of_first {fields : Ipv4Fields} (first : fields.versionAndLength = 0x45) :
    fields.version = 4 ∧ fields.headerLength = 20 := by
  rw [version, headerLength, first]
  decide

namespace Ipv4Datagram

/-- Reading a packet that was put together gives its fields and its payload. -/
theorem read_emit (header : Ipv4Header) (payload : Bytes) (fits : 20 + payload.length < 65536) :
    read (header.emit payload.length ++ payload) =
      .ok ⟨header.fields payload.length, payload⟩ := by
  have total : (header.fields payload.length).totalLength.toNat = 20 + payload.length :=
    Nat.mod_eq_of_lt fits
  obtain ⟨version, headerLength⟩ : (header.fields payload.length).version = 4 ∧
      (header.fields payload.length).headerLength = 20 := Ipv4Fields.of_first rfl
  have length : (header.emit payload.length ++ payload).length = 20 + payload.length := by
    rw [List.length_append, Ipv4Header.emit, Ipv4Fields.length_encode]
  unfold read
  rw [length, Ipv4Header.emit, Ipv4Fields.read?_encode]
  simp only [total, headerLength, version, Ipv4Fields.byteLength]
  rw [if_neg (by omega), if_neg (by simp), if_neg (by omega), if_neg (by simp),
    Nat.add_sub_cancel_left, List.take_length]

/-- What is known about an IPv4 packet that was read. -/
structure Sound (packet : Bytes) (datagram : Ipv4Datagram) : Prop where
  version : datagram.fields.version = 4
  headerLength : datagram.fields.headerLength = 20
  declared : datagram.fields.totalLength.toNat = 20 + datagram.payload.length
  arrived : datagram.fields.totalLength.toNat ≤ packet.length

theorem sound {packet : Bytes} {datagram : Ipv4Datagram} (ok : read packet = .ok datagram) :
    datagram.Sound packet := by
  unfold read at ok
  split at ok
  next => cases ok
  next fields rest readFields =>
    have length := Ipv4Fields.length_of_read? readFields
    simp only at ok
    split at ok
    next => cases ok
    next fitting =>
      split at ok
      next => cases ok
      next version =>
        by_cases short : fields.headerLength < Ipv4Fields.byteLength
        · rw [if_pos short] at ok
          cases ok
        · by_cases headerLength : fields.headerLength = Ipv4Fields.byteLength
          · rw [if_neg short, if_neg (not_not_intro headerLength)] at ok
            cases ok
            simp only [Ipv4Fields.byteLength] at headerLength
            refine ⟨Classical.not_not.mp version, headerLength, ?_, ?_⟩
            · show fields.totalLength.toNat =
                20 + (rest.take (fields.totalLength.toNat - 20)).length
              rw [List.length_take]
              omega
            · show fields.totalLength.toNat ≤ packet.length
              omega
          · rw [if_neg short, if_pos headerLength] at ok
            cases ok

theorem offset_aligned (datagram : Ipv4Datagram) :
    datagram.fields.fragmentOffset.toNat % 8 = 0 := by
  rw [Ipv4Fields.toNat_fragmentOffset]
  omega

end Ipv4Datagram

/-! ## IPv6 -/

theorem Ipv6Header.version_fields (header : Ipv6Header) (payloadLength : Nat) :
    (header.fields payloadLength).version = 6 := by
  show ((0x60000000 : UInt32) / 0x10000000).toUInt8 = 6
  decide

namespace Ipv6Datagram

theorem readProtocol_number (protocol : UpperProtocol) :
    readProtocol (protocol.number .inet6) = .ok protocol := by
  simp only [readProtocol, UpperProtocol.ofNumber?_number]

theorem number_of_readProtocol {number : UInt8} {protocol : UpperProtocol}
    (ok : readProtocol number = .ok protocol) : number = protocol.number .inet6 := by
  unfold readProtocol at ok
  split at ok
  next named => cases ok; exact UpperProtocol.eq_number_of_ofNumber? named
  next => split at ok <;> cases ok

theorem number_ne_fragmentNumber (protocol : UpperProtocol) :
    protocol.number .inet6 ≠ fragmentNumber := by
  cases protocol <;> decide

/-- Reading a packet without a Fragment header that was put together. -/
theorem read_plain (fields : Ipv6Fields) (protocol : UpperProtocol) (payload : Bytes)
    (version : fields.version = 6) (declared : fields.payloadLength.toNat = payload.length)
    (next : fields.nextHeader = protocol.number .inet6) :
    read (fields.encode ++ payload) = .ok ⟨fields, none, protocol, payload⟩ := by
  unfold read
  rw [Ipv6Fields.read?_encode]
  simp only [declared, version, next, number_ne_fragmentNumber, Nat.lt_irrefl, if_false,
    ne_eq, not_true_eq_false, List.take_length, readProtocol_number]
  rfl

/-- Reading a packet with a Fragment header that was put together. -/
theorem read_fragment (fields : Ipv6Fields) (fragment : FragmentHeader)
    (protocol : UpperProtocol) (payload : Bytes) (version : fields.version = 6)
    (declared : fields.payloadLength.toNat = 8 + payload.length)
    (next : fields.nextHeader = fragmentNumber)
    (inner : fragment.nextHeader = protocol.number .inet6)
    (aligned : fragment.offset.toNat % 8 = 0) :
    read (fields.encode ++ (fragment.encode ++ payload)) =
      .ok ⟨fields, some fragment, protocol, payload⟩ := by
  have length : (fragment.encode ++ payload).length = 8 + payload.length := by
    rw [List.length_append, FragmentHeader.length_encode]
  unfold read
  rw [Ipv6Fields.read?_encode]
  simp only [declared, ← length, version, next, Nat.lt_irrefl, if_false, ne_eq,
    not_true_eq_false, if_true, List.take_length]
  rw [FragmentHeader.read?_encode fragment aligned payload]
  simp only [inner, readProtocol_number]
  rfl

/-- How the payload of an IPv6 packet is announced: by the fixed header, or by a Fragment header
that the fixed header announces. -/
inductive Announced (fields : Ipv6Fields) (protocol : UpperProtocol) (payload : Bytes) :
    Option FragmentHeader → Prop where
  | plain (next : fields.nextHeader = protocol.number .inet6)
      (declared : fields.payloadLength.toNat = payload.length) :
      Announced fields protocol payload none
  | fragment (fragment : FragmentHeader) (next : fields.nextHeader = fragmentNumber)
      (inner : fragment.nextHeader = protocol.number .inet6)
      (aligned : fragment.offset.toNat % 8 = 0)
      (declared : fields.payloadLength.toNat = 8 + payload.length) :
      Announced fields protocol payload (some fragment)

/-- What is known about an IPv6 packet that was read. -/
structure Sound (datagram : Ipv6Datagram) : Prop where
  version : datagram.fields.version = 6
  announced : Announced datagram.fields datagram.protocol datagram.payload datagram.fragment

theorem sound {packet : Bytes} {datagram : Ipv6Datagram} (ok : read packet = .ok datagram) :
    datagram.Sound := by
  unfold read at ok
  split at ok
  next => cases ok
  next fields rest _ =>
    simp only at ok
    split at ok
    next => cases ok
    next fitting =>
      split at ok
      next => cases ok
      next version =>
        have length : (rest.take fields.payloadLength.toNat).length =
            fields.payloadLength.toNat := by
          rw [List.length_take]
          omega
        split at ok
        next next' =>
          split at ok
          next => cases ok
          next fragment payload readFragment =>
            cases named : readProtocol fragment.nextHeader with
            | error reason => rw [named] at ok; cases ok
            | ok protocol =>
                rw [named] at ok
                cases ok
                refine ⟨Classical.not_not.mp version, .fragment fragment next'
                  (number_of_readProtocol named)
                  (FragmentHeader.offset_of_read? readFragment) ?_⟩
                rw [← length, FragmentHeader.length_of_read? readFragment]
        next =>
          cases named : readProtocol fields.nextHeader with
          | error reason => rw [named] at ok; cases ok
          | ok protocol =>
              rw [named] at ok
              cases ok
              exact ⟨Classical.not_not.mp version,
                .plain (number_of_readProtocol named) length.symm⟩

theorem Sound.offset_aligned {datagram : Ipv6Datagram} (sound : datagram.Sound) :
    datagram.fragmentOffset.toNat % 8 = 0 := by
  obtain ⟨fields, fragment, protocol, payload⟩ := datagram
  cases sound.announced with
  | plain => rfl
  | fragment fragment next inner aligned => exact aligned

theorem Sound.length_payload {datagram : Ipv6Datagram} (sound : datagram.Sound) :
    datagram.payload.length ≤ 65535 := by
  obtain ⟨fields, fragment, protocol, payload⟩ := datagram
  have bound := fields.payloadLength.toNat_lt
  cases sound.announced with
  | plain next declared =>
      simp only at declared ⊢
      omega
  | fragment fragment next inner aligned declared =>
      simp only at declared ⊢
      omega

end Ipv6Datagram

end FamilyGateway
