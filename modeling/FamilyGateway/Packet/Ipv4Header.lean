import FamilyGateway.Checksum

/-!
# IPv4 headers

`Ipv4Fields` holds the fields of the fixed twenty bytes exactly as they are sent,
so writing and reading are inverse (`read?_encode`). Fields that share a byte or a
word on the wire are read off it by the functions below the structure.

`Ipv4Header` holds what the gateway decides about a packet it sends: no options, no
service type, and a checksum that is filled in when the header is emitted.
-/

set_option autoImplicit false

namespace FamilyGateway

/-! ## The fields on the wire -/

/-- The fixed twenty bytes of an IPv4 header, field by field. -/
structure Ipv4Fields where
  /-- Version in the high half, header length in units of four bytes in the low half. -/
  versionAndLength : UInt8
  serviceType : UInt8
  totalLength : UInt16
  identification : UInt16
  /-- Three flag bits over thirteen bits of fragment offset in units of eight bytes. -/
  flagsAndOffset : UInt16
  timeToLive : UInt8
  protocol : UInt8
  checksum : UInt16
  source : Ipv4Address
  destination : Ipv4Address
  deriving DecidableEq, Repr

namespace Ipv4Fields

/-- Length of the header without options. -/
def byteLength : Nat := 20

/-- The twenty bytes of the header. -/
def encode (fields : Ipv4Fields) : Bytes :=
  [fields.versionAndLength, fields.serviceType] ++ Wire.bytes16 fields.totalLength ++
    Wire.bytes16 fields.identification ++ Wire.bytes16 fields.flagsAndOffset ++
    [fields.timeToLive, fields.protocol] ++ Wire.bytes16 fields.checksum ++
    fields.source.octets ++ fields.destination.octets

/-- Reads the header in front of some bytes, and returns what follows the twenty bytes. -/
def read? : Bytes → Option (Ipv4Fields × Bytes)
  | versionAndLength :: serviceType :: t1 :: t2 :: i1 :: i2 :: f1 :: f2 :: timeToLive ::
      protocol :: c1 :: c2 :: addresses => do
    let (source, addresses) ← Ipv4Address.read? addresses
    let (destination, rest) ← Ipv4Address.read? addresses
    some (⟨versionAndLength, serviceType, Wire.word t1 t2, Wire.word i1 i2, Wire.word f1 f2,
      timeToLive, protocol, Wire.word c1 c2, source, destination⟩, rest)
  | _ => none

@[simp] theorem read?_encode (fields : Ipv4Fields) (rest : Bytes) :
    read? (fields.encode ++ rest) = some (fields, rest) := by
  simp [read?, encode, Wire.bytes16, Ipv4Address.octets, Ipv4Address.read?]

@[simp] theorem length_encode (fields : Ipv4Fields) : fields.encode.length = 20 := rfl

theorem length_of_read? {packet rest : Bytes} {fields : Ipv4Fields}
    (read : read? packet = some (fields, rest)) : packet.length = 20 + rest.length := by
  unfold read? Ipv4Address.read? at read
  split at read
  next =>
    split at read
    next =>
      simp only [Option.bind_eq_bind, Option.bind_some] at read
      split at read
      next => cases read; simp only [List.length_cons]; omega
      next => cases read
    next => cases read
  next => cases read

/-- The IP version. -/
def version (fields : Ipv4Fields) : UInt8 := fields.versionAndLength / 16

/-- The header length in bytes, options included. -/
def headerLength (fields : Ipv4Fields) : Nat := (fields.versionAndLength % 16).toNat * 4

/-- Whether routers are asked to leave the packet whole. -/
def dontFragment (fields : Ipv4Fields) : Bool := fields.flagsAndOffset / 0x4000 % 2 = 1

/-- Whether more fragments of the datagram follow. -/
def moreFragments (fields : Ipv4Fields) : Bool := fields.flagsAndOffset / 0x2000 % 2 = 1

/-- The position of the payload in its datagram, in bytes. -/
def fragmentOffset (fields : Ipv4Fields) : UInt16 := fields.flagsAndOffset % 0x2000 * 8

/-- The flag word that carries two flags and an offset in bytes, rounded down to a multiple of
eight. -/
def flagWord (dontFragment moreFragments : Bool) (offset : UInt16) : UInt16 :=
  (if dontFragment then 0x4000 else 0) + (if moreFragments then 0x2000 else 0) + offset / 8

theorem toNat_flagWord (dontFragment moreFragments : Bool) (offset : UInt16) :
    (flagWord dontFragment moreFragments offset).toNat =
      (if dontFragment then 16384 else 0) + (if moreFragments then 8192 else 0) +
        offset.toNat / 8 := by
  have bound := offset.toNat_lt
  cases dontFragment <;> cases moreFragments <;>
    simp only [flagWord, UInt16.toNat_add, UInt16.toNat_div, UInt16.reduceToNat, if_true,
      Bool.false_eq_true, if_false] <;>
    omega

theorem toNat_fragmentOffset (fields : Ipv4Fields) :
    fields.fragmentOffset.toNat = fields.flagsAndOffset.toNat % 8192 * 8 := by
  have bound := fields.flagsAndOffset.toNat_lt
  simp only [fragmentOffset, UInt16.toNat_mul, UInt16.toNat_mod, UInt16.reduceToNat]
  omega

/-- The flags and the offset of a word that was put together, if the offset can be written. -/
theorem read_flagWord {fields : Ipv4Fields} {dont more : Bool} {offset : UInt16}
    (word : fields.flagsAndOffset = flagWord dont more offset)
    (aligned : offset.toNat % 8 = 0) :
    fields.dontFragment = dont ∧ fields.moreFragments = more ∧
      fields.fragmentOffset = offset := by
  have bound := offset.toNat_lt
  have value := toNat_flagWord dont more offset
  refine ⟨?_, ?_, ?_⟩
  · rw [Bool.eq_iff_iff, dontFragment, decide_eq_true_eq, ← UInt16.toNat_inj, word]
    simp only [UInt16.toNat_mod, UInt16.toNat_div, UInt16.reduceToNat, value]
    cases dont <;> cases more <;> simp <;> omega
  · rw [Bool.eq_iff_iff, moreFragments, decide_eq_true_eq, ← UInt16.toNat_inj, word]
    simp only [UInt16.toNat_mod, UInt16.toNat_div, UInt16.reduceToNat, value]
    cases dont <;> cases more <;> simp <;> omega
  · rw [← UInt16.toNat_inj, toNat_fragmentOffset, word, value]
    cases dont <;> cases more <;> simp <;> omega

end Ipv4Fields

/-! ## The headers that are sent -/

/-- What the gateway decides about the header of an IPv4 packet. -/
structure Ipv4Header where
  source : Ipv4Address
  destination : Ipv4Address
  protocol : UInt8
  timeToLive : UInt8
  identification : UInt16
  dontFragment : Bool
  moreFragments : Bool
  /-- Position of the payload in its datagram, in bytes. -/
  fragmentOffset : UInt16
  deriving DecidableEq, Repr

namespace Ipv4Header

/-- The wire fields of a header in front of `payloadLength` bytes, checksum still zero. The total
length keeps its low sixteen bits. -/
def blank (header : Ipv4Header) (payloadLength : Nat) : Ipv4Fields where
  versionAndLength := 0x45
  serviceType := 0
  totalLength := UInt16.ofNat (Ipv4Fields.byteLength + payloadLength)
  identification := header.identification
  flagsAndOffset :=
    Ipv4Fields.flagWord header.dontFragment header.moreFragments header.fragmentOffset
  timeToLive := header.timeToLive
  protocol := header.protocol
  checksum := 0
  source := header.source
  destination := header.destination

/-- The wire fields of a header in front of `payloadLength` bytes. -/
def fields (header : Ipv4Header) (payloadLength : Nat) : Ipv4Fields :=
  let blank := header.blank payloadLength
  { blank with checksum := Checksum.ipv4Header blank.encode }

/-- The twenty bytes of a header in front of `payloadLength` bytes. -/
def emit (header : Ipv4Header) (payloadLength : Nat) : Bytes :=
  (header.fields payloadLength).encode

end Ipv4Header

end FamilyGateway
