import FamilyGateway.Proofs.Packet.View

/-!
# The length that a packet declares

The header of a packet says how long the packet is. `declaredLength?` reads that
length off the bytes and `PacketView.totalLength` off what the packet shows; they agree
on every packet that can be read (`declaredLength?_of_read?`).

Bytes after the declared length are no part of the packet. Reading is inverse to
writing (`Ipv4Fields.eq_of_read?`, `Ipv6Fields.eq_of_read?`), so a header is found
unchanged in front of more bytes, and a packet is read as it is without them
(`Ipv4Datagram.read_append`, `Ipv6Datagram.read_append`).
-/

set_option autoImplicit false

namespace FamilyGateway

/-! ## Headers in front of other bytes -/

theorem Ipv4Address.eq_of_read? {bytes rest : Bytes} {address : Ipv4Address}
    (found : read? bytes = some (address, rest)) : bytes = address.octets ++ rest := by
  unfold read? at found
  split at found
  next => cases found; rfl
  next => cases found

theorem Ipv6Address.eq_of_read? {bytes rest : Bytes} {address : Ipv6Address}
    (found : read? bytes = some (address, rest)) : bytes = address.octets ++ rest := by
  unfold read? at found
  split at found
  next =>
    obtain ⟨⟨low, tail⟩, lowFound, same⟩ := Option.map_eq_some_iff.mp found
    cases same
    rw [Ipv4Address.eq_of_read? lowFound]
    simp [octets, groups, Wire.bytes16, Ipv4Address.octets]
  next => cases found

/-- The bytes in which a header was found are that header and what follows it. -/
theorem Ipv4Fields.eq_of_read? {packet rest : Bytes} {fields : Ipv4Fields}
    (found : read? packet = some (fields, rest)) : packet = fields.encode ++ rest := by
  unfold read? at found
  split at found
  next =>
    simp only [Option.bind_eq_bind, Option.bind_eq_some_iff] at found
    obtain ⟨⟨source, tail⟩, sourceFound, ⟨destination, last⟩, destinationFound, same⟩ := found
    cases same
    have destinationFound : Ipv4Address.read? tail = some (destination, last) := destinationFound
    rw [Ipv4Address.eq_of_read? sourceFound, Ipv4Address.eq_of_read? destinationFound]
    simp [encode, Wire.bytes16]
  next => cases found

/-- The bytes in which a header was found are that header and what follows it. -/
theorem Ipv6Fields.eq_of_read? {packet rest : Bytes} {fields : Ipv6Fields}
    (found : read? packet = some (fields, rest)) : packet = fields.encode ++ rest := by
  unfold read? at found
  split at found
  next =>
    simp only [Option.bind_eq_bind, Option.bind_eq_some_iff] at found
    obtain ⟨⟨source, tail⟩, sourceFound, ⟨destination, last⟩, destinationFound, same⟩ := found
    cases same
    have destinationFound : Ipv6Address.read? tail = some (destination, last) := destinationFound
    rw [Ipv6Address.eq_of_read? sourceFound, Ipv6Address.eq_of_read? destinationFound]
    simp [encode, Wire.bytes16, Wire.bytes32]
  next => cases found

/-! ## Declared lengths -/

/-- How long the header of a packet says that the packet is, headers included. -/
def declaredLength? : Family → Bytes → Option Nat
  | .inet, packet =>
    (Ipv4Fields.read? packet).map fun (fields, _) => fields.totalLength.toNat
  | .inet6, packet =>
    (Ipv6Fields.read? packet).map fun (fields, _) =>
      Ipv6Fields.byteLength + fields.payloadLength.toNat

/-- How much of a packet its headers take: the fixed header, and over IPv6 the Fragment header
where there is one. -/
def PacketView.headerLength (view : PacketView) : Nat :=
  match view.endpoints.source.family with
  | .inet => Ipv4Fields.byteLength
  | .inet6 =>
    Ipv6Fields.byteLength +
      if view.identification.isSome then FragmentHeader.byteLength else 0

/-- The length of the packet with its headers. -/
def PacketView.totalLength (view : PacketView) : Nat := view.headerLength + view.payload.length

theorem PacketView.totalLength_inet {view : PacketView}
    (family : view.endpoints.source.family = .inet) :
    view.totalLength = 20 + view.payload.length := by
  simp only [totalLength, headerLength, family, Ipv4Fields.byteLength]

theorem PacketView.totalLength_inet6 {view : PacketView}
    (family : view.endpoints.source.family = .inet6) :
    view.totalLength =
      40 + (if view.identification.isSome then 8 else 0) + view.payload.length := by
  simp only [totalLength, headerLength, family, Ipv6Fields.byteLength, FragmentHeader.byteLength]

namespace Ipv4Datagram

variable {packet : Bytes} {datagram : Ipv4Datagram}

/-- The fields of a packet that was read stand at its beginning. -/
theorem fields_of_read (ok : read packet = .ok datagram) :
    ∃ rest, Ipv4Fields.read? packet = some (datagram.fields, rest) := by
  unfold read at ok
  split at ok
  next => cases ok
  next fields rest found =>
    simp only at ok
    split at ok
    next => cases ok
    next =>
      split at ok
      next => cases ok
      next =>
        split at ok
        next => cases ok
        next =>
          split at ok
          next => cases ok
          next => cases ok; exact ⟨rest, found⟩

/-- Bytes after the declared length do not change how a packet is read. -/
theorem read_append (exact : declaredLength? .inet packet = some packet.length)
    (trailing : Bytes) : read (packet ++ trailing) = read packet := by
  obtain ⟨⟨fields, rest⟩, found, declared⟩ := Option.map_eq_some_iff.mp exact
  obtain rfl := Ipv4Fields.eq_of_read? found
  rw [List.length_append, Ipv4Fields.length_encode] at declared
  unfold read
  rw [found, List.append_assoc, Ipv4Fields.read?_encode]
  simp only at declared
  simp only [List.length_append, Ipv4Fields.length_encode, Ipv4Fields.byteLength]
  have cut : (rest ++ trailing).take (fields.totalLength.toNat - 20) =
      rest.take (fields.totalLength.toNat - 20) :=
    List.take_append_of_le_length (by omega)
  have refused : (20 + (rest.length + trailing.length) < fields.headerLength ∨
        fields.totalLength.toNat < fields.headerLength ∨
        20 + (rest.length + trailing.length) < fields.totalLength.toNat) ↔
      (20 + rest.length < fields.headerLength ∨
        fields.totalLength.toNat < fields.headerLength ∨
        20 + rest.length < fields.totalLength.toNat) := by
    omega
  rw [cut]
  simp only [refused]

end Ipv4Datagram

namespace Ipv6Datagram

variable {packet : Bytes} {datagram : Ipv6Datagram}

/-- The fields of a packet that was read stand at its beginning. -/
theorem fields_of_read (ok : read packet = .ok datagram) :
    ∃ rest, Ipv6Fields.read? packet = some (datagram.fields, rest) := by
  unfold read at ok
  split at ok
  next => cases ok
  next fields rest found =>
    simp only at ok
    split at ok
    next => cases ok
    next =>
      split at ok
      next => cases ok
      next =>
        split at ok
        next =>
          split at ok
          next => cases ok
          next fragment payload _ =>
            cases named : readProtocol fragment.nextHeader with
            | error reason => rw [named] at ok; cases ok
            | ok protocol => rw [named] at ok; cases ok; exact ⟨rest, found⟩
        next =>
          cases named : readProtocol fields.nextHeader with
          | error reason => rw [named] at ok; cases ok
          | ok protocol => rw [named] at ok; cases ok; exact ⟨rest, found⟩

/-- Bytes after the declared length do not change how a packet is read. -/
theorem read_append (exact : declaredLength? .inet6 packet = some packet.length)
    (trailing : Bytes) : read (packet ++ trailing) = read packet := by
  obtain ⟨⟨fields, rest⟩, found, declared⟩ := Option.map_eq_some_iff.mp exact
  obtain rfl := Ipv6Fields.eq_of_read? found
  rw [List.length_append, Ipv6Fields.length_encode] at declared
  unfold read
  rw [found, List.append_assoc, Ipv6Fields.read?_encode]
  simp only [Ipv6Fields.byteLength] at declared
  have cut : (rest ++ trailing).take fields.payloadLength.toNat =
      rest.take fields.payloadLength.toNat :=
    List.take_append_of_le_length (by omega)
  have refused : (rest ++ trailing).length < fields.payloadLength.toNat ↔
      rest.length < fields.payloadLength.toNat := by
    rw [List.length_append]
    omega
  simp only [cut, refused]

end Ipv6Datagram

/-- What a packet shows is as long as its header declares. -/
theorem PacketView.declaredLength?_of_read? {family : Family} {packet : Bytes}
    {view : PacketView} (found : read? family packet = some view) :
    declaredLength? family packet = some view.totalLength := by
  cases family with
  | inet =>
      obtain ⟨datagram, protocol, ok, _, rfl⟩ := read?_inet found
      obtain ⟨rest, header⟩ := Ipv4Datagram.fields_of_read ok
      have declared := (Ipv4Datagram.sound ok).declared
      simp only [declaredLength?, header, Option.map_some, declared]
      rfl
  | inet6 =>
      obtain ⟨datagram, ok, rfl⟩ := read?_inet6 found
      obtain ⟨rest, header⟩ := Ipv6Datagram.fields_of_read ok
      have sound := Ipv6Datagram.sound ok
      simp only [declaredLength?, header, Option.map_some, Option.some.injEq]
      obtain ⟨fields, fragment, protocol, payload⟩ := datagram
      cases sound.announced with
      | plain next declared =>
          show 40 + fields.payloadLength.toNat = 40 + 0 + payload.length
          rw [declared]
      | fragment fragment next inner aligned declared =>
          show 40 + fields.payloadLength.toNat = 40 + 8 + payload.length
          rw [declared, Nat.add_assoc]

end FamilyGateway
