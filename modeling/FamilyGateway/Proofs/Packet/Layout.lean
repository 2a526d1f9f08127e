import FamilyGateway.Proofs.Packet.Declared

/-!
# Where the parts of a packet stand

A packet that can be read is the header that was read, the payload, and whatever stands
behind the declared length (`Ipv4Datagram.LaidOut`, `Ipv6Datagram.LaidOut`). Over IPv6 a
Fragment header may stand between the two. Its bytes need not be the ones that are written
for what it says, since its reserved bits are not read, so they are a part of their own
(`FragmentHeader.Raw`); writing them again clears the reserved bits and changes nothing else
(`FragmentHeader.Raw.encode_eq`).

Conversely every packet that is laid out like this can be read, as what it is laid out as
(`Ipv4Datagram.read_eq_ok_iff`, `Ipv6Datagram.read_eq_ok_iff`). So whether a packet can be read is
a matter of its bytes, and of nothing that reading does.
-/

set_option autoImplicit false

namespace FamilyGateway

/-! ## Reserved bits -/

namespace FragmentHeader

/-- The bytes of a Fragment header with the reserved byte and the two reserved bits cleared. -/
def clearReserved : Bytes → Bytes
  | nextHeader :: _ :: high :: low :: rest => nextHeader :: 0 :: high :: (low &&& 0xf9) :: rest
  | short => short

/-- Reserved bits are cleared once. -/
theorem clearReserved_clearReserved (raw : Bytes) :
    clearReserved (clearReserved raw) = clearReserved raw := by
  match raw with
  | nextHeader :: reserved :: high :: low :: rest =>
      simp only [clearReserved, UInt8.and_assoc, UInt8.and_self]
  | [] => rfl
  | [_] => rfl
  | [_, _] => rfl
  | [_, _, _] => rfl

/-- The reserved bits are the ones that reading an offset and a flag off a byte leaves out. -/
theorem and_reserved (low : UInt8) : (low &&& 0xf9).toNat = low.toNat / 8 * 8 + low.toNat % 2 := by
  have every : ∀ value : Fin 256, (UInt8.ofFin value &&& 0xf9).toNat =
      value.val / 8 * 8 + value.val % 2 := by
    decide +kernel
  exact every low.toFin

/-- An offset and a flag that were read off a word are written back without the reserved bits. -/
theorem bytes16_offsetWord (high low : UInt8) :
    Wire.bytes16 (offsetWord (Wire.word high low / 8 * 8) (Wire.word high low % 2 = 1)) =
      [high, low &&& 0xf9] := by
  have boundLow := low.toNat_lt
  have word := Wire.toNat_word high low
  have flag : (if decide (Wire.word high low % 2 = 1) = true then 1 else 0) =
      (Wire.word high low).toNat % 2 := by
    simp only [decide_eq_true_eq, ← UInt16.toNat_inj, UInt16.toNat_mod, UInt16.reduceToNat]
    split <;> omega
  have offset : (Wire.word high low / 8 * 8).toNat = (Wire.word high low).toNat / 8 * 8 := by
    have bound := (Wire.word high low).toNat_lt
    simp only [UInt16.toNat_mul, UInt16.toNat_div, UInt16.reduceToNat]
    omega
  have written := toNat_offsetWord (Wire.word high low / 8 * 8)
    (decide (Wire.word high low % 2 = 1))
  rw [flag, offset] at written
  have reserved := and_reserved low
  have first : Wire.high (offsetWord (Wire.word high low / 8 * 8)
      (Wire.word high low % 2 = 1)) = high := by
    apply UInt8.toNat_inj.mp
    rw [Wire.toNat_high]
    omega
  have second : Wire.low (offsetWord (Wire.word high low / 8 * 8)
      (Wire.word high low % 2 = 1)) = (low &&& 0xf9) := by
    apply UInt8.toNat_inj.mp
    rw [Wire.toNat_low]
    omega
  rw [Wire.bytes16, first, second]

/-- Eight bytes that are read as a header. -/
structure Raw (header : FragmentHeader) (raw : Bytes) : Prop where
  length : raw.length = 8
  read : ∀ rest, read? (raw ++ rest) = some (header, rest)

/-- Where a header can be read, it is the first eight bytes. -/
theorem exists_raw_of_read? {bytes rest : Bytes} {header : FragmentHeader}
    (found : read? bytes = some (header, rest)) : ∃ raw, header.Raw raw ∧ bytes = raw ++ rest := by
  unfold read? at found
  split at found
  next nextHeader reserved o1 o2 i1 i2 i3 i4 tail =>
    cases found
    exact ⟨[nextHeader, reserved, o1, o2, i1, i2, i3, i4], ⟨rfl, fun _ => rfl⟩, rfl⟩
  next => cases found

theorem raw_encode {header : FragmentHeader} (aligned : header.offset.toNat % 8 = 0) :
    header.Raw header.encode :=
  ⟨header.length_encode, header.read?_encode aligned⟩

namespace Raw

variable {header : FragmentHeader} {raw : Bytes}

theorem aligned (stands : header.Raw raw) : header.offset.toNat % 8 = 0 :=
  offset_of_read? (stands.read [])

/-- **Only the reserved bits change** where a header that was read is written again. -/
theorem encode_eq (stands : header.Raw raw) : header.encode = clearReserved raw := by
  have found := stands.read []
  rw [List.append_nil] at found
  unfold read? at found
  split at found
  next nextHeader reserved o1 o2 i1 i2 i3 i4 rest =>
    cases found
    rw [encode, bytes16_offsetWord]
    simp only [clearReserved, Wire.bytes32, Wire.bytes16, Wire.upper_long, Wire.lower_long,
      Wire.high_word, Wire.low_word, List.cons_append, List.nil_append]
  next => cases found

end Raw

end FragmentHeader

/-! ## IPv4 -/

namespace Ipv4Datagram

/-- The bytes of an IPv4 packet without options: its header, its payload, and what stands behind
the declared length. -/
structure LaidOut (datagram : Ipv4Datagram) (packet : Bytes) : Prop where
  bytes : ∃ trailing, packet = datagram.fields.encode ++ (datagram.payload ++ trailing)
  version : datagram.fields.version = 4
  headerLength : datagram.fields.headerLength = 20
  /-- The total length counts header and payload. -/
  declared : datagram.fields.totalLength.toNat = 20 + datagram.payload.length

variable {packet : Bytes} {datagram : Ipv4Datagram}

theorem LaidOut.read (laidOut : datagram.LaidOut packet) :
    Ipv4Datagram.read packet = .ok datagram := by
  obtain ⟨⟨trailing, rfl⟩, version, headerLength, declared⟩ := laidOut
  have size : (datagram.fields.encode ++ (datagram.payload ++ trailing)).length =
      20 + datagram.payload.length + trailing.length := by
    simp only [List.length_append, Ipv4Fields.length_encode]
    omega
  unfold Ipv4Datagram.read
  rw [Ipv4Fields.read?_encode]
  simp only [size, version, headerLength, declared, Ipv4Fields.byteLength]
  rw [if_neg (by omega), if_neg (by simp), if_neg (by omega), if_neg (by simp),
    Nat.add_sub_cancel_left, List.take_left]

theorem laidOut_of_read (ok : read packet = .ok datagram) : datagram.LaidOut packet := by
  obtain ⟨fields, payload⟩ := datagram
  obtain ⟨rest, found⟩ := fields_of_read ok
  obtain ⟨version, headerLength, declared, arrived⟩ := sound ok
  obtain rfl := Ipv4Fields.eq_of_read? found
  rw [List.length_append, Ipv4Fields.length_encode] at arrived
  simp only at declared arrived
  have size : (rest.take payload.length).length = payload.length := by
    rw [List.length_take]
    omega
  -- A packet that is laid out with the beginning of the rest as its payload is read as such.
  have laidOut : LaidOut ⟨fields, rest.take payload.length⟩ (fields.encode ++ rest) := by
    refine ⟨⟨rest.drop payload.length, ?_⟩, version, headerLength, ?_⟩
    · rw [List.take_append_drop]
    · rw [size]
      exact declared
  have same : payload = rest.take payload.length :=
    congrArg Ipv4Datagram.payload (Except.ok.inj (ok.symm.trans laidOut.read))
  rw [← same] at laidOut
  exact laidOut

/-- **A packet can be read exactly if it is laid out so.** -/
theorem read_eq_ok_iff : read packet = .ok datagram ↔ datagram.LaidOut packet :=
  ⟨laidOut_of_read, LaidOut.read⟩

end Ipv4Datagram

/-! ## IPv6 -/

namespace Ipv6Datagram

/-- The bytes between the fixed header and the payload: those of a Fragment header, if there is
one. -/
def Between : Option FragmentHeader → Bytes → Prop
  | none, extension => extension = []
  | some header, extension => header.Raw extension

/-- The bytes of an IPv6 packet: its header, perhaps a Fragment header, its payload, and what stands
behind the declared length. -/
structure LaidOut (datagram : Ipv6Datagram) (extension packet : Bytes) : Prop where
  bytes : ∃ trailing,
    packet = datagram.fields.encode ++ (extension ++ (datagram.payload ++ trailing))
  between : Between datagram.fragment extension
  version : datagram.fields.version = 6
  /-- The headers announce one another, the protocol, and the length of what stands behind the
  fixed header. -/
  announced : Announced datagram.fields datagram.protocol datagram.payload datagram.fragment

variable {extension packet : Bytes} {datagram : Ipv6Datagram}

namespace Between

variable {fragment : Option FragmentHeader}

/-- What is written between header and payload are the same bytes without reserved bits. -/
theorem flatten_encode (between : Between fragment extension) :
    (fragment.map FragmentHeader.encode).toList.flatten =
      FragmentHeader.clearReserved extension := by
  cases fragment with
  | none =>
      obtain rfl : extension = [] := between
      rfl
  | some header =>
      have stands : header.Raw extension := between
      rw [Option.map_some, Option.toList_some, List.flatten_singleton, stands.encode_eq]

/-- The bytes without reserved bits are read as the same Fragment header. -/
theorem cleared (between : Between fragment extension) :
    Between fragment (FragmentHeader.clearReserved extension) := by
  cases fragment with
  | none =>
      obtain rfl : extension = [] := between
      rfl
  | some header =>
      have stands : header.Raw extension := between
      rw [← stands.encode_eq]
      exact FragmentHeader.raw_encode stands.aligned

end Between

/-- Header, Fragment header and payload, put together. -/
def assemble (datagram : Ipv6Datagram) (extension : Bytes) : Bytes :=
  datagram.fields.encode ++ (extension ++ datagram.payload)

/-- The declared length counts the Fragment header and the payload. -/
theorem LaidOut.declared (laidOut : datagram.LaidOut extension packet) :
    datagram.fields.payloadLength.toNat = (extension ++ datagram.payload).length := by
  obtain ⟨fields, fragment, protocol, payload⟩ := datagram
  obtain ⟨-, between, -, announced⟩ := laidOut
  rw [List.length_append]
  cases announced with
  | plain next declared =>
      obtain rfl : extension = [] := between
      rw [List.length_nil, Nat.zero_add]
      exact declared
  | fragment fragment next inner aligned declared =>
      rw [FragmentHeader.Raw.length between]
      exact declared

theorem LaidOut.length_assemble (laidOut : datagram.LaidOut extension packet) :
    (datagram.assemble extension).length = 40 + datagram.fields.payloadLength.toNat := by
  rw [assemble, List.length_append, Ipv6Fields.length_encode, laidOut.declared]

/-- The first bytes of a packet are those that its header declares. -/
theorem LaidOut.take_eq (laidOut : datagram.LaidOut extension packet) :
    packet.take (40 + datagram.fields.payloadLength.toNat) = datagram.assemble extension := by
  have length := laidOut.length_assemble
  obtain ⟨⟨trailing, rfl⟩, -, -, -⟩ := laidOut
  rw [← List.append_assoc extension, ← List.append_assoc, ← length]
  exact List.take_left

theorem LaidOut.read (laidOut : datagram.LaidOut extension packet) :
    Ipv6Datagram.read packet = .ok datagram := by
  have declared := laidOut.declared
  obtain ⟨fields, fragment, protocol, payload⟩ := datagram
  obtain ⟨⟨trailing, rfl⟩, between, version, announced⟩ := laidOut
  simp only at declared version between
  have taken : ((extension ++ payload) ++ trailing).take fields.payloadLength.toNat =
      extension ++ payload :=
    List.take_left' declared.symm
  have fitting : ¬ ((extension ++ payload) ++ trailing).length < fields.payloadLength.toNat := by
    rw [declared, List.length_append]
    omega
  unfold Ipv6Datagram.read
  rw [Ipv6Fields.read?_encode, ← List.append_assoc]
  simp only [version, fitting, if_false, ne_eq, not_true_eq_false, taken]
  cases announced with
  | plain next _ =>
      obtain rfl : extension = [] := between
      have next : fields.nextHeader = protocol.number .inet6 := next
      simp only [next, number_ne_fragmentNumber, if_false, readProtocol_number, List.nil_append]
      rfl
  | fragment fragment next inner _ _ =>
      have stands : fragment.Raw extension := between
      have next : fields.nextHeader = fragmentNumber := next
      simp only [next, if_true, stands.read payload, inner, readProtocol_number]
      rfl

theorem exists_laidOut_of_read (ok : read packet = .ok datagram) :
    ∃ extension, datagram.LaidOut extension packet := by
  obtain ⟨version, announced⟩ := sound ok
  unfold read at ok
  split at ok
  next => cases ok
  next fields rest found =>
    obtain rfl := Ipv6Fields.eq_of_read? found
    have parts := List.take_append_drop fields.payloadLength.toNat rest
    simp only at ok
    split at ok
    next => cases ok
    next =>
      split at ok
      next => cases ok
      next =>
        split at ok
        next =>
          split at ok
          next => cases ok
          next fragment payload readFragment =>
            cases named : readProtocol fragment.nextHeader with
            | error reason => rw [named] at ok; cases ok
            | ok protocol =>
                rw [named] at ok
                cases ok
                obtain ⟨raw, stands, same⟩ := FragmentHeader.exists_raw_of_read? readFragment
                rw [same, List.append_assoc] at parts
                exact ⟨raw, ⟨_, congrArg _ parts.symm⟩, stands, version, announced⟩
        next =>
          cases named : readProtocol fields.nextHeader with
          | error reason => rw [named] at ok; cases ok
          | ok protocol =>
              rw [named] at ok
              cases ok
              exact ⟨[], ⟨_, congrArg _ parts.symm⟩, rfl, version, announced⟩

/-- **A packet can be read exactly if it is laid out so.** -/
theorem read_eq_ok_iff :
    read packet = .ok datagram ↔ ∃ extension, datagram.LaidOut extension packet :=
  ⟨exists_laidOut_of_read, fun ⟨_, laidOut⟩ => laidOut.read⟩

end Ipv6Datagram

end FamilyGateway
