import FamilyGateway.Proofs.Packet.Declared
import FamilyGateway.Proofs.Packet.FragmentCodec
import FamilyGateway.Proofs.Translator.Conversion
import FamilyGateway.Proofs.Treatment.Checked

/-!
# Packets taken apart by position

An arriving packet is taken apart by cutting it at positions that its own header gives. The fields
of the fixed header are read once it is known to be there; everything after that is cut out of the
packet, and a Fragment header is read byte by byte (`Checked.readIpv4`, `Checked.readIpv6`).

The tests come first, so no cut is outside of the packet. This holds of every packet, of one that
is refused as well, and it is refused for the same reason as by the functions that take packets
apart from the front.
-/

set_option autoImplicit false

namespace FamilyGateway.Checked

/-! ## IPv4 -/

/-- Takes an IPv4 packet apart. -/
def readIpv4 (packet : Bytes) : Checked Ipv4Datagram :=
  match Ipv4Fields.read? packet with
  | none => drop (.truncated .ipv4Packet)
  | some (fields, _) =>
    let total := fields.totalLength.toNat
    if packet.length < fields.headerLength ∨ total < fields.headerLength ∨
        packet.length < total then
      drop (.truncated .ipv4Packet)
    else if fields.version ≠ 4 then drop (.wrongVersion fields.version)
    else if fields.headerLength < Ipv4Fields.byteLength then drop (.truncated .ipv4Header)
    else if fields.headerLength ≠ Ipv4Fields.byteLength then
      drop (.ipv4Options fields.headerLength)
    else do
      let payload ← part packet fields.headerLength total
      .ok ⟨fields, payload⟩

theorem readIpv4_eq (packet : Bytes) :
    readIpv4 packet = ofResult (Ipv4Datagram.read packet) := by
  unfold readIpv4 Ipv4Datagram.read
  cases found : Ipv4Fields.read? packet with
  | none => rfl
  | some front =>
      obtain ⟨fields, rest⟩ := front
      obtain rfl := Ipv4Fields.eq_of_read? found
      dsimp only
      split
      next => rfl
      next fits =>
        split
        next => rfl
        next =>
          split
          next => rfl
          next =>
            split
            next => rfl
            next plain =>
              have plain : fields.headerLength = fields.encode.length := Decidable.of_not_not plain
              rw [bind_ok (part_eq (by omega) (by omega)), plain, List.drop_left]
              rfl

/-! ## IPv6 -/

/-- The Fragment header in front of a payload, if the payload is long enough for one. -/
def fragmentHeader? (payload : Bytes) : Checked (Option FragmentHeader) :=
  match part? payload 0 FragmentHeader.byteLength with
  | none => .ok none
  | some header => do
    let nextHeader ← byteAt header 0
    let word ← wordAt header 2
    let identification ← longAt header 4
    .ok (some ⟨nextHeader, word / 8 * 8, word % 2 = 1, identification⟩)

/-- Takes apart what the fixed header of an IPv6 packet declares. -/
def readDeclared (fields : Ipv6Fields) (payload : Bytes) : Checked Ipv6Datagram := do
  if fields.nextHeader = fragmentNumber then
    match ← fragmentHeader? payload with
    | none => drop (.truncated .fragmentHeader)
    | some fragment => do
      let upper ← part payload FragmentHeader.byteLength payload.length
      let protocol ← ofResult (Ipv6Datagram.readProtocol fragment.nextHeader)
      .ok ⟨fields, some fragment, protocol, upper⟩
  else do
    let protocol ← ofResult (Ipv6Datagram.readProtocol fields.nextHeader)
    .ok ⟨fields, none, protocol, payload⟩

/-- Takes an IPv6 packet apart. -/
def readIpv6 (packet : Bytes) : Checked Ipv6Datagram :=
  match Ipv6Fields.read? packet with
  | none => drop (.truncated .ipv6Packet)
  | some (fields, _) =>
    let length := fields.payloadLength.toNat
    if packet.length < Ipv6Fields.byteLength + length then drop (.truncated .ipv6Packet)
    else if fields.version ≠ 6 then drop (.wrongVersion fields.version)
    else do
      let stop ← addSize Ipv6Fields.byteLength length
      let payload ← part packet Ipv6Fields.byteLength stop
      readDeclared fields payload

theorem fragmentHeader?_eq (payload : Bytes) :
    fragmentHeader? payload = .ok ((FragmentHeader.read? payload).map Prod.fst) := by
  by_cases long : 8 ≤ payload.length
  · match payload, long with
    | _ :: _ :: _ :: _ :: _ :: _ :: _ :: _ :: _, long =>
        rw [fragmentHeader?, part?, if_pos ⟨Nat.zero_le _, long⟩]
        rfl
  · have cut : part? payload 0 FragmentHeader.byteLength = none :=
      if_neg fun inside => long inside.2
    cases found : FragmentHeader.read? payload with
    | none => rw [fragmentHeader?, cut, Option.map_none]
    | some front => exact absurd (FragmentHeader.exists_read?_iff.mp ⟨_, _, found⟩) long

/-- What stands behind a Fragment header is a part of the payload. -/
theorem part_of_read? {payload upper : Bytes} {fragment : FragmentHeader}
    (found : FragmentHeader.read? payload = some (fragment, upper)) :
    part payload FragmentHeader.byteLength payload.length = .ok upper := by
  obtain ⟨raw, stands, rfl⟩ := FragmentHeader.exists_raw_of_read? found
  have reaches : FragmentHeader.byteLength ≤ (raw ++ upper).length := by
    rw [FragmentHeader.byteLength, ← stands.length, List.length_append]
    exact Nat.le_add_right _ _
  rw [part_length reaches, FragmentHeader.byteLength, ← stands.length, List.drop_left]

theorem readDeclared_eq (fields : Ipv6Fields) (payload : Bytes) :
    readDeclared fields payload = ofResult
      (if fields.nextHeader = fragmentNumber then
        match FragmentHeader.read? payload with
        | none => .error (.truncated .fragmentHeader)
        | some (fragment, upper) => do
          let protocol ← Ipv6Datagram.readProtocol fragment.nextHeader
          .ok ⟨fields, some fragment, protocol, upper⟩
      else do
        let protocol ← Ipv6Datagram.readProtocol fields.nextHeader
        .ok ⟨fields, none, protocol, payload⟩) := by
  unfold readDeclared
  split
  next =>
    rw [bind_ok (fragmentHeader?_eq payload)]
    cases found : FragmentHeader.read? payload with
    | none => rfl
    | some front =>
        obtain ⟨fragment, upper⟩ := front
        refine (bind_ok (part_of_read? found) _).trans ?_
        dsimp only
        cases Ipv6Datagram.readProtocol fragment.nextHeader <;> rfl
  next => cases Ipv6Datagram.readProtocol fields.nextHeader <;> rfl

theorem readIpv6_eq (packet : Bytes) :
    readIpv6 packet = ofResult (Ipv6Datagram.read packet) := by
  unfold readIpv6 Ipv6Datagram.read
  cases found : Ipv6Fields.read? packet with
  | none => rfl
  | some front =>
      obtain ⟨fields, rest⟩ := front
      obtain rfl := Ipv6Fields.eq_of_read? found
      have size : (fields.encode ++ rest).length = Ipv6Fields.byteLength + rest.length := by
        rw [List.length_append, Ipv6Fields.length_encode, Ipv6Fields.byteLength]
      have bound := fields.payloadLength.toNat_lt
      simp only [size, Nat.add_lt_add_iff_left]
      split
      next => rfl
      next fits =>
        split
        next => rfl
        next =>
          have stop : addSize Ipv6Fields.byteLength fields.payloadLength.toNat = .ok _ :=
            addSize_eq (by rw [Ipv6Fields.byteLength]; omega)
          have cut : part (fields.encode ++ rest) Ipv6Fields.byteLength
              (Ipv6Fields.byteLength + fields.payloadLength.toNat) =
                .ok (rest.take fields.payloadLength.toNat) := by
            have header : Ipv6Fields.byteLength = fields.encode.length := rfl
            rw [part_eq (Nat.le_add_right _ _) (by omega), Nat.add_sub_cancel_left, header,
              List.drop_left]
          rw [bind_ok stop, bind_ok cut]
          exact readDeclared_eq fields _

/-! ## Addresses in messages -/

/-- The IPv4 address between two positions, if the bytes reach that far. -/
def ipv4At? (bytes : Bytes) (start stop : Nat) : Checked (Option Ipv4Address) :=
  match part? bytes start stop with
  | none => .ok none
  | some octets => do
    let address ← ofOption ((Ipv4Address.read? octets).map Prod.fst)
    .ok (some address)

/-- The IPv6 address between two positions, if the bytes reach that far. -/
def ipv6At? (bytes : Bytes) (start stop : Nat) : Checked (Option Ipv6Address) :=
  match part? bytes start stop with
  | none => .ok none
  | some octets => do
    let address ← ofOption ((Ipv6Address.read? octets).map Prod.fst)
    .ok (some address)

theorem part?_eq_none {bytes : Bytes} {start length : Nat}
    (short : ¬ length ≤ (bytes.drop start).length) :
    part? bytes start (start + length) = none := by
  refine if_neg fun inside => short ?_
  rw [List.length_drop]
  omega

theorem part?_eq_some {bytes front rest : Bytes} {start : Nat}
    (cut : bytes.drop start = front ++ rest) (positive : 0 < front.length) :
    part? bytes start (start + front.length) = some front := by
  have lengths := congrArg List.length cut
  rw [List.length_drop, List.length_append] at lengths
  rw [part?, if_pos ⟨Nat.le_add_right _ _, by omega⟩, cut, Nat.add_sub_cancel_left, List.take_left]

theorem ipv4At?_eq (bytes : Bytes) (start : Nat) :
    ipv4At? bytes start (start + 4) =
      .ok ((Ipv4Address.read? (bytes.drop start)).map Prod.fst) := by
  cases found : Ipv4Address.read? (bytes.drop start) with
  | none =>
      have short : ¬ 4 ≤ (bytes.drop start).length := by
        rw [← Ipv4Address.exists_read?_iff, found]
        exact nofun
      rw [ipv4At?, part?_eq_none short, Option.map_none]
  | some front =>
      obtain ⟨address, rest⟩ := front
      have cut : part? bytes start (start + 4) = some address.octets :=
        part?_eq_some (Ipv4Address.eq_of_read? found) (Nat.zero_lt_succ _)
      rw [ipv4At?, cut]
      rfl

theorem ipv6At?_eq (bytes : Bytes) (start : Nat) :
    ipv6At? bytes start (start + 16) =
      .ok ((Ipv6Address.read? (bytes.drop start)).map Prod.fst) := by
  cases found : Ipv6Address.read? (bytes.drop start) with
  | none =>
      have short : ¬ 16 ≤ (bytes.drop start).length := by
        rw [← Ipv6Address.exists_read?_iff, found]
        exact nofun
      rw [ipv6At?, part?_eq_none short, Option.map_none]
  | some front =>
      obtain ⟨address, rest⟩ := front
      have cut : part? bytes start (start + 16) = some address.octets :=
        part?_eq_some (Ipv6Address.eq_of_read? found) (Nat.zero_lt_succ _)
      have read : Ipv6Address.read? address.octets = some (address, []) := by
        rw [← Ipv6Address.read?_octets address [], List.append_nil]
      rw [ipv6At?, cut]
      dsimp only
      rw [read]
      rfl

end FamilyGateway.Checked
