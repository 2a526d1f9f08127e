import FamilyGateway.Proofs.Icmp.Advertisement
import FamilyGateway.Proofs.Packet.Covering
import FamilyGateway.Proofs.Packet.HeaderChecksum
import FamilyGateway.Proofs.Treatment.Payload

/-!
# Packets put together by position

A packet that is sent is put together in buffers of zeros: its header and the ICMP message of a
notice are written field by field, and a checksum is written over the zeros in its place once
everything else stands. A payload that is too long is walked in chunks, which are numbered, and
the number gives the offset that is written for each of them (`Checked.split`).

Every position is inside of its buffer and no length or offset outgrows its width, given that the
datagram that goes on is no longer than a length field can say. The bytes are those of the
functions that put packets together from the front.
-/

set_option autoImplicit false

namespace FamilyGateway.Checked

/-! ## Headers -/

/-- The checksum of an IPv4 header whose checksum field counts as zero. -/
def headerChecksum (header : Bytes) : Checked UInt16 :=
  match header with
  | [] => ofOption (Checksum.Checked.ofSum 0)
  | first :: _ => do
    let length ← mulSize (first % 16).toNat 4
    let covered ← part header 0 (min length header.length)
    if 12 ≤ covered.length then do
      let front ← part covered 0 10
      let back ← part covered 12 covered.length
      let front ← ofOption (Checksum.Checked.wordSum front)
      let back ← ofOption (Checksum.Checked.wordSum back)
      let sum ← ofOption (Checksum.Checked.combine front back)
      ofOption (Checksum.Checked.ofSum sum)
    else do
      let front ← part covered 0 (min covered.length 10)
      let sum ← ofOption (Checksum.Checked.wordSum front)
      ofOption (Checksum.Checked.ofSum sum)

/-- An IPv4 header in front of a payload of some length. -/
def emitIpv4 (header : Ipv4Header) (payloadLength : Nat) : Checked Bytes := do
  let total ← addSize Ipv4Fields.byteLength payloadLength
  let blank := { header.blank payloadLength with totalLength := UInt16.ofNat total }
  let checksum ← headerChecksum blank.encode
  write blank.encode 10 12 (Wire.bytes16 checksum)

/-- The bytes of a Fragment header. -/
def encodeFragment (header : FragmentHeader) : Checked Bytes := do
  let announced ← put (List.replicate FragmentHeader.byteLength 0) 0 header.nextHeader
  let placed ← write announced 2 4
    (Wire.bytes16 (FragmentHeader.offsetWord header.offset header.moreFragments))
  write placed 4 8 (Wire.bytes32 header.identification)

/-- Words of short messages are summed up without losing a carry. -/
theorem wordSum_ok {data : Bytes} (short : data.length ≤ 131074) :
    ofOption (Checksum.Checked.wordSum data) = .ok (Checksum.wordSum data) := by
  rw [Checksum.Checked.wordSum_eq short]
  rfl

theorem combine_ok (left right : UInt32) :
    ofOption (Checksum.Checked.combine left right) = .ok (Checksum.combine left right) := by
  rw [Checksum.Checked.combine_eq]
  rfl

theorem ofSum_ok (sum : UInt32) :
    ofOption (Checksum.Checked.ofSum sum) = .ok (Checksum.ofSum sum) := by
  rw [Checksum.Checked.ofSum_eq]
  rfl

theorem headerChecksum_eq (header : Bytes) :
    headerChecksum header = .ok (Checksum.ipv4Header header) := by
  unfold headerChecksum Checksum.ipv4Header
  split
  next => exact ofSum_ok 0
  next first rest =>
    have bound : (first % 16).toNat ≤ 15 := by
      rw [UInt8.toNat_mod]
      exact Nat.le_of_lt_succ (Nat.mod_lt _ (by decide))
    have length : mulSize (first % 16).toNat 4 = .ok ((first % 16).toNat * 4) :=
      mulSize_eq (by omega)
    have cut : part (first :: rest) 0 (min ((first % 16).toNat * 4) (first :: rest).length) =
        .ok ((first :: rest).take ((first % 16).toNat * 4)) := by
      rw [part_zero (Nat.min_le_right _ _), ← List.take_eq_take_min]
    rw [bind_ok length, bind_ok cut]
    dsimp only
    generalize covers : (first :: rest).take ((first % 16).toNat * 4) = covered
    have small : covered.length ≤ 60 := by
      rw [← covers, List.length_take]
      omega
    split
    next long =>
      have front : (covered.take 10).length ≤ 131074 := by
        rw [List.length_take]
        omega
      have back : (covered.drop 12).length ≤ 131074 := by
        rw [List.length_drop]
        omega
      rw [bind_ok (part_zero (by omega)), bind_ok (part_length long), bind_ok (wordSum_ok front),
        bind_ok (wordSum_ok back), bind_ok (combine_ok _ _)]
      exact ofSum_ok _
    next =>
      have front : (covered.take 10).length ≤ 131074 := by
        rw [List.length_take]
        omega
      rw [Nat.min_comm, bind_ok (part_zero (Nat.min_le_right _ _)), ← List.take_eq_take_min,
        bind_ok (wordSum_ok front)]
      exact ofSum_ok _

theorem emitIpv4_eq (header : Ipv4Header) {payloadLength : Nat} (short : payloadLength ≤ 65535) :
    emitIpv4 header payloadLength = .ok (header.emit payloadLength) := by
  have total : addSize Ipv4Fields.byteLength payloadLength = .ok _ :=
    addSize_eq (by rw [Ipv4Fields.byteLength]; omega)
  rw [emitIpv4, bind_ok total, bind_ok (headerChecksum_eq _)]
  rfl

theorem encodeFragment_eq (header : FragmentHeader) :
    encodeFragment header = .ok header.encode :=
  rfl

/-! ## Payloads in chunks -/

/-- The chunks of a payload, all but the last one of the same length. -/
def chunks (size : Nat) (payload : Bytes) : List Bytes :=
  if 0 < size ∧ payload ≠ [] then payload.take size :: chunks size (payload.drop size) else []
termination_by payload.length
decreasing_by
  have := List.length_pos_iff.mpr ‹0 < size ∧ payload ≠ []›.2
  rw [List.length_drop]
  omega

/-- Does the same with every chunk and its number. -/
def numbered (each : Nat → Bytes → Checked OutboundPacket) :
    Nat → List Bytes → Checked (List OutboundPacket)
  | _, [] => .ok []
  | index, chunk :: later => do
    let first ← each index chunk
    let next ← addSize index 1
    let others ← numbered each next later
    .ok (first :: others)

/-- Builds a packet from the chunk with some number. -/
def buildChunk (size total : Nat) (build : Piece → Checked OutboundPacket) (index : Nat)
    (chunk : Bytes) : Checked OutboundPacket := do
  let start ← mulSize index size
  let stop ← addSize start chunk.length
  build ⟨start, chunk, stop = total⟩

/-- A payload cut into pieces that fit into some room, with a packet built from each of them. There
are no chunks of length zero. -/
def split (room : Nat) (payload : Bytes) (build : Piece → Checked OutboundPacket) :
    Checked (List OutboundPacket) :=
  let size := Piece.size room
  if size = 0 then .error .fault
  else numbered (buildChunk size payload.length build) 0 (chunks size payload)

section Pieces

variable {build : Piece → Checked OutboundPacket} {make : Piece → OutboundPacket}

theorem buildChunk_eq {size total index : Nat} {chunk : Bytes} (small : total ≤ 65535)
    (builds : ∀ piece : Piece, piece.start + piece.data.length ≤ total →
      build piece = .ok (make piece))
    (inside : index * size + chunk.length ≤ total) :
    buildChunk size total build index chunk =
      .ok (make ⟨index * size, chunk, index * size + chunk.length = total⟩) := by
  have start : mulSize index size = .ok _ := mulSize_eq (by omega)
  have stop : addSize (index * size) chunk.length = .ok _ := addSize_eq (by omega)
  rw [buildChunk, bind_ok start, bind_ok stop]
  exact builds _ inside

/-- The chunks of a payload are the data of its pieces, and their numbers say where they start. -/
theorem numbered_chunks (room : Nat) {total : Nat} (small : total ≤ 65535)
    (builds : ∀ piece : Piece, piece.start + piece.data.length ≤ total →
      build piece = .ok (make piece))
    (index : Nat) (payload : Bytes) (carries : payload ≠ [])
    (ends : index * Piece.size room + payload.length = total) :
    numbered (buildChunk (Piece.size room) total build) index
        (chunks (Piece.size room) payload) =
      .ok ((Piece.cut room (index * Piece.size room) payload).map make) := by
  have positive := Piece.size_pos room
  fun_induction chunks (Piece.size room) payload generalizing index with
  | case1 payload _ ih =>
      have counts : index ≤ index * Piece.size room := Nat.le_mul_of_pos_right index positive
      have counted : addSize index 1 = .ok _ := addSize_eq (by omega)
      have front : (payload.take (Piece.size room)).length =
          min (Piece.size room) payload.length := List.length_take
      have first : buildChunk (Piece.size room) total build index
          (payload.take (Piece.size room)) = .ok _ :=
        buildChunk_eq small builds (by omega)
      rw [numbered, bind_ok first, bind_ok counted, Piece.cut]
      split
      next fits =>
        rw [List.take_of_length_le fits, List.drop_of_length_le fits, chunks, if_neg (by simp)]
        simp only [numbered, ends, decide_true]
        rfl
      next tooLong =>
        have after : (index + 1) * Piece.size room = index * Piece.size room + Piece.size room :=
          Nat.succ_mul index _
        have rest : (payload.drop (Piece.size room)).length =
            payload.length - Piece.size room := List.length_drop
        have remains : payload.drop (Piece.size room) ≠ [] := by
          intro nothing
          rw [nothing, List.length_nil] at rest
          omega
        have between : decide (index * Piece.size room +
            (payload.take (Piece.size room)).length = total) = false :=
          decide_eq_false (by omega)
        rw [bind_ok (ih (index + 1) remains (by omega)), after, between]
        rfl
  | case2 payload empty => exact absurd ⟨positive, carries⟩ empty

theorem split_eq {room : Nat} {payload : Bytes} (short : payload.length ≤ 65535)
    (carries : payload ≠ [])
    (builds : ∀ piece : Piece, piece.start + piece.data.length ≤ payload.length →
      build piece = .ok (make piece)) :
    split room payload build = .ok ((Piece.cut room 0 payload).map make) := by
  have walked := numbered_chunks room short builds 0 payload carries
    (by rw [Nat.zero_mul, Nat.zero_add])
  rw [Nat.zero_mul] at walked
  rw [split, if_neg (Nat.ne_of_gt (Piece.size_pos room)), walked]

end Pieces

/-! ## Packets that cross -/

/-- The packet to IPv6 for a part of a datagram. -/
def partToIpv6 (crossing : FourToSix) (identification : UInt32) (offset : UInt16)
    (moreFragments : Bool) (data : Bytes) : Checked OutboundPacket := do
  let length ← addSize FragmentHeader.byteLength data.length
  let fragment ← encodeFragment
    ⟨crossing.protocol.number .inet6, offset, moreFragments, identification⟩
  let header : Ipv6Header :=
    ⟨crossing.source, crossing.destination, fragmentNumber, crossing.hopLimit⟩
  .ok ⟨.inet6, header.emit length, some fragment, data⟩

/-- The packet to IPv6 for one piece of the payload. -/
def pieceToIpv6 (crossing : FourToSix) (identification : UInt32) (piece : Piece) :
    Checked OutboundPacket := do
  let offset ← addWord crossing.offset (UInt16.ofNat piece.start)
  partToIpv6 crossing identification offset (!piece.last || crossing.moreFragments) piece.data

/-- The packet to IPv4 for the whole payload. -/
def wholeToIpv4 (crossing : SixToFour) (drawn : UInt32) : Checked OutboundPacket := do
  let header ← emitIpv4 (crossing.header drawn) crossing.payload.length
  .ok ⟨.inet, header, none, crossing.payload⟩

/-- The packet to IPv4 for one piece of the payload. -/
def pieceToIpv4 (crossing : SixToFour) (drawn : UInt32) (piece : Piece) :
    Checked OutboundPacket := do
  let offset ← addWord crossing.offset (UInt16.ofNat piece.start)
  let header := { crossing.header drawn with
    dontFragment := false
    moreFragments := !piece.last || crossing.moreFragments
    fragmentOffset := offset }
  let header ← emitIpv4 header piece.data.length
  .ok ⟨.inet, header, none, piece.data⟩

/-- A piece of a datagram that ends below 65536 begins below it. -/
theorem addWord_start {offset : UInt16} {payload : Bytes} {piece : Piece}
    (fits : offset.toNat + payload.length ≤ 65535)
    (inside : piece.start + piece.data.length ≤ payload.length) :
    addWord offset (UInt16.ofNat piece.start) = .ok (offset + UInt16.ofNat piece.start) := by
  refine addWord_eq ?_
  rw [UInt16.toNat_ofNat_of_lt' (by omega : piece.start < 65536)]
  omega

theorem partToIpv6_eq (crossing : FourToSix) (identification : UInt32) (offset : UInt16)
    (moreFragments : Bool) {data : Bytes} (short : data.length ≤ 65535) :
    partToIpv6 crossing identification offset moreFragments data =
      .ok ⟨.inet6, Ipv6Header.emit
          ⟨crossing.source, crossing.destination, fragmentNumber, crossing.hopLimit⟩
          (FragmentHeader.byteLength + data.length),
        some (FragmentHeader.encode
          ⟨crossing.protocol.number .inet6, offset, moreFragments, identification⟩), data⟩ := by
  have length : addSize FragmentHeader.byteLength data.length = .ok _ :=
    addSize_eq (by rw [FragmentHeader.byteLength]; omega)
  rw [partToIpv6, bind_ok length, bind_ok (encodeFragment_eq _)]

theorem wholeFragmentToIpv6 (crossing : FourToSix) (identification : UInt32)
    (short : crossing.payload.length ≤ 65535) :
    partToIpv6 crossing identification crossing.offset crossing.moreFragments crossing.payload =
      .ok (crossing.fragment identification ⟨0, crossing.payload, true⟩) := by
  have offset : crossing.offset + UInt16.ofNat 0 = crossing.offset := UInt16.add_zero _
  rw [partToIpv6_eq _ _ _ _ short, FourToSix.fragment, offset]
  rfl

theorem split_pieceToIpv6 {crossing : FourToSix} (identification : UInt32) (room : Nat)
    (fits : crossing.offset.toNat + crossing.payload.length ≤ 65535)
    (carries : crossing.payload ≠ []) :
    split room crossing.payload (pieceToIpv6 crossing identification) =
      .ok ((Piece.cut room 0 crossing.payload).map (crossing.fragment identification)) := by
  refine split_eq (by omega) carries fun piece inside => ?_
  rw [pieceToIpv6, bind_ok (addWord_start fits inside)]
  exact partToIpv6_eq _ _ _ _ (by omega)

theorem wholeToIpv4_eq (crossing : SixToFour) (drawn : UInt32)
    (short : crossing.payload.length ≤ 65535) :
    wholeToIpv4 crossing drawn = .ok (crossing.whole drawn) := by
  rw [wholeToIpv4, bind_ok (emitIpv4_eq _ short)]
  rfl

theorem split_pieceToIpv4 {crossing : SixToFour} (drawn : UInt32) (room : Nat)
    (fits : crossing.offset.toNat + crossing.payload.length ≤ 65535)
    (carries : crossing.payload ≠ []) :
    split room crossing.payload (pieceToIpv4 crossing drawn) =
      .ok ((Piece.cut room 0 crossing.payload).map (crossing.fragment drawn)) := by
  refine split_eq (by omega) carries fun piece inside => ?_
  rw [pieceToIpv4, bind_ok (addWord_start fits inside), bind_ok (emitIpv4_eq _ (by omega))]
  rfl

/-! ## Notices -/

/-- How long the first byte of an IPv4 packet says that its header is. -/
def quotedHeader (original : Bytes) : Checked Nat :=
  match original with
  | [] => .ok Ipv4Fields.byteLength
  | first :: _ => mulSize (first % 16).toNat 4

/-- Writes the checksum of a message over the zeros in its place. -/
def stamp (message : Bytes) (sum : UInt32) : Checked Bytes := do
  let checksum ← ofOption (Checksum.Checked.ofSum sum)
  write message 2 4 (Wire.bytes16 checksum)

/-- Type, code, size and quote of a fragmentation-needed notice, written into a buffer. -/
def needFragBuffer (length : Nat) (mtu : UInt16) (quote : Bytes) : Checked Bytes := do
  let typed ← put (List.replicate length 0) 0 Icmp.unreachable
  let coded ← put typed 1 Icmp.fragmentationNeeded
  let sized ← write coded 6 8 (Wire.bytes16 (max mtu (PathMtu.floor .inet)))
  write sized IcmpMessage.headerLength length quote

/-- The message of a fragmentation-needed notice. -/
def needFragMessage (original : Bytes) (mtu : UInt16) : Checked Bytes := do
  let headerLength ← quotedHeader original
  let reach ← addSize headerLength Icmp.quotedPayload
  let quoted := min original.length reach
  let length ← addSize IcmpMessage.headerLength quoted
  let quote ← part original 0 quoted
  let filled ← needFragBuffer length mtu quote
  let sum ← ofOption (Checksum.Checked.wordSum filled)
  stamp filled sum

/-- The notice to the sender of an IPv4 packet. -/
def needFragNotice (original : Bytes) (source destination : Ipv4Address) (mtu : UInt16) :
    Checked OutboundPacket := do
  let message ← needFragMessage original mtu
  let header : Ipv4Header :=
    ⟨source, destination, UpperProtocol.icmp.number .inet, Icmp.noticeHops, 0, false, false, 0⟩
  let header ← emitIpv4 header message.length
  .ok ⟨.inet, header, none, message⟩

/-- The sum of the pseudo-header of a packet-too-big notice. The message is short, and its length is
added in one piece. -/
def noticeSum (source destination : Ipv6Address) (length : Nat) : Option UInt32 := do
  let addresses ← pairSum ⟨.v6 source, .v6 destination⟩
  let trailer ← Checksum.Checked.add (UpperProtocol.icmp.number .inet6).toUInt32
    (UInt32.ofNat length)
  Checksum.Checked.combine addresses trailer

/-- Type, size and quote of a packet-too-big notice, written into a buffer. -/
def tooBigBuffer (length : Nat) (mtu : UInt32) (quote : Bytes) : Checked Bytes := do
  let typed ← put (List.replicate length 0) 0 Icmp.packetTooBig
  let sized ← write typed 4 8 (Wire.bytes32 (max mtu (PathMtu.floor .inet6).toUInt32))
  write sized IcmpMessage.headerLength length quote

/-- The message of a packet-too-big notice. -/
def tooBigMessage (original : Bytes) (source destination : Ipv6Address) (mtu : UInt32) :
    Checked Bytes := do
  let quoted := min original.length Icmp.ipv6QuoteRoom
  let length ← addSize IcmpMessage.headerLength quoted
  let quote ← part original 0 quoted
  let filled ← tooBigBuffer length mtu quote
  let pseudo ← ofOption (noticeSum source destination length)
  let body ← ofOption (Checksum.Checked.wordSum filled)
  let sum ← ofOption (Checksum.Checked.combine pseudo body)
  stamp filled sum

/-- The notice to the sender of an IPv6 packet. -/
def tooBigNotice (original : Bytes) (source destination : Ipv6Address) (mtu : UInt32) :
    Checked OutboundPacket := do
  let message ← tooBigMessage original source destination mtu
  let header : Ipv6Header :=
    ⟨source, destination, UpperProtocol.icmp.number .inet6, Icmp.noticeHops⟩
  .ok ⟨.inet6, header.emit message.length, none, message⟩

/-- A quote is written behind the eight bytes of a message, with which its buffer ends. -/
theorem write_quote {front quote : Bytes} (length : front.length = 8) :
    write (front ++ List.replicate quote.length 0) IcmpMessage.headerLength
        (IcmpMessage.headerLength + quote.length) quote =
      .ok (front ++ quote) := by
  rw [IcmpMessage.headerLength, write_eq (Nat.le_add_right _ _) (by simp [length])
    (Nat.add_sub_cancel_left ..).symm, ← length, List.take_left]
  simp

/-- The checksum of a message is filled in where it stands. -/
theorem stamp_eq (message : IcmpMessage) (sum : UInt32) :
    stamp message.encode sum =
      .ok { message with checksum := Checksum.ofSum sum }.encode := by
  rw [stamp, bind_ok (ofSum_ok sum)]
  exact write_word (by rw [IcmpMessage.length_encode]; omega) _

theorem bytes16_zero : Wire.bytes16 0 = [0, 0] := by decide

/-- A word in the low half of four bytes. -/
theorem bytes32_toUInt32 (value : UInt16) :
    Wire.bytes32 value.toUInt32 = [0, 0] ++ Wire.bytes16 value := by
  have bound := value.toNat_lt
  have upper : Wire.upper value.toUInt32 = 0 := by
    rw [← UInt16.toNat_inj, Wire.toNat_upper, UInt16.toNat_toUInt32, UInt16.toNat_zero]
    omega
  have lower : Wire.lower value.toUInt32 = value := by
    rw [← UInt16.toNat_inj, Wire.toNat_lower, UInt16.toNat_toUInt32]
    omega
  rw [Wire.bytes32, upper, lower]
  rfl

theorem quotedHeader_eq (original : Bytes) :
    ∃ length ≤ 60, quotedHeader original = .ok length ∧
      Icmp.ipv4Quote original = original.take (length + Icmp.quotedPayload) := by
  cases original with
  | nil => exact ⟨20, by decide, rfl, rfl⟩
  | cons first rest =>
      have bound : (first % 16).toNat ≤ 15 := by
        rw [UInt8.toNat_mod]
        exact Nat.le_of_lt_succ (Nat.mod_lt _ (by decide))
      exact ⟨(first % 16).toNat * 4, by omega, mulSize_eq (by omega), rfl⟩

theorem needFragBuffer_eq (mtu : UInt16) (quote : Bytes) :
    needFragBuffer (IcmpMessage.headerLength + quote.length) mtu quote =
      .ok (IcmpMessage.encode ⟨Icmp.unreachable, Icmp.fragmentationNeeded, 0,
        (max mtu (PathMtu.floor .inet)).toUInt32, quote⟩) := by
  have zeros : List.replicate (IcmpMessage.headerLength + quote.length) (0 : UInt8) =
      [0, 0, 0, 0, 0, 0, 0, 0] ++ List.replicate quote.length 0 :=
    List.replicate_append_replicate.symm
  have typed : put ([0, 0, 0, 0, 0, 0, 0, 0] ++ List.replicate quote.length 0) 0
      Icmp.unreachable =
        .ok ([Icmp.unreachable, 0, 0, 0, 0, 0, 0, 0] ++ List.replicate quote.length 0) :=
    put_eq (by simp) _
  have coded : put ([Icmp.unreachable, 0, 0, 0, 0, 0, 0, 0] ++ List.replicate quote.length 0) 1
      Icmp.fragmentationNeeded = .ok ([Icmp.unreachable, Icmp.fragmentationNeeded, 0, 0, 0, 0, 0,
        0] ++ List.replicate quote.length 0) :=
    put_eq (by simp) _
  have sized : write ([Icmp.unreachable, Icmp.fragmentationNeeded, 0, 0, 0, 0, 0, 0] ++
      List.replicate quote.length 0) 6 8 (Wire.bytes16 (max mtu (PathMtu.floor .inet))) =
        .ok ([Icmp.unreachable, Icmp.fragmentationNeeded, 0, 0, 0, 0] ++
          Wire.bytes16 (max mtu (PathMtu.floor .inet)) ++ List.replicate quote.length 0) :=
    write_eq (by decide) (by simp) rfl
  rw [needFragBuffer, zeros, bind_ok typed, bind_ok coded, bind_ok sized, write_quote rfl]
  simp only [IcmpMessage.encode, bytes16_zero, bytes32_toUInt32]
  rfl

theorem tooBigBuffer_eq (mtu : UInt32) (quote : Bytes) :
    tooBigBuffer (IcmpMessage.headerLength + quote.length) mtu quote =
      .ok (IcmpMessage.encode ⟨Icmp.packetTooBig, 0, 0,
        max mtu (PathMtu.floor .inet6).toUInt32, quote⟩) := by
  have zeros : List.replicate (IcmpMessage.headerLength + quote.length) (0 : UInt8) =
      [0, 0, 0, 0, 0, 0, 0, 0] ++ List.replicate quote.length 0 :=
    List.replicate_append_replicate.symm
  have typed : put ([0, 0, 0, 0, 0, 0, 0, 0] ++ List.replicate quote.length 0) 0
      Icmp.packetTooBig =
        .ok ([Icmp.packetTooBig, 0, 0, 0, 0, 0, 0, 0] ++ List.replicate quote.length 0) :=
    put_eq (by simp) _
  have sized : write ([Icmp.packetTooBig, 0, 0, 0, 0, 0, 0, 0] ++ List.replicate quote.length 0)
      4 8 (Wire.bytes32 (max mtu (PathMtu.floor .inet6).toUInt32)) =
        .ok ([Icmp.packetTooBig, 0, 0, 0] ++
          Wire.bytes32 (max mtu (PathMtu.floor .inet6).toUInt32) ++
            List.replicate quote.length 0) :=
    write_eq (by decide) (by simp) rfl
  rw [tooBigBuffer, zeros, bind_ok typed, bind_ok sized, write_quote rfl]
  simp only [IcmpMessage.encode, bytes16_zero]
  rfl

/-- What is quoted of a packet is cut out of it. -/
theorem part_quote (original : Bytes) (reach : Nat) :
    part original 0 (min original.length reach) = .ok (original.take reach) := by
  rw [part_zero (Nat.min_le_left _ _), Nat.min_comm, ← List.take_eq_take_min]

theorem needFragMessage_eq (original : Bytes) (mtu : UInt16) :
    needFragMessage original mtu =
      .ok (Icmp.fragmentationNeededMessage original mtu).encode := by
  obtain ⟨headerLength, short, found, quotes⟩ := quotedHeader_eq original
  have reach : addSize headerLength Icmp.quotedPayload = .ok _ :=
    addSize_eq (by rw [Icmp.quotedPayload]; omega)
  have cut := part_quote original (headerLength + Icmp.quotedPayload)
  have size : min original.length (headerLength + Icmp.quotedPayload) =
      (Icmp.ipv4Quote original).length := by
    rw [quotes, List.length_take, Nat.min_comm]
  rw [← quotes, size] at cut
  have brief := Icmp.length_ipv4Quote_le_max original
  have length : addSize IcmpMessage.headerLength (Icmp.ipv4Quote original).length = .ok _ :=
    addSize_eq (by rw [IcmpMessage.headerLength]; omega)
  have filled := needFragBuffer_eq mtu (Icmp.ipv4Quote original)
  have summed : (IcmpMessage.encode ⟨Icmp.unreachable, Icmp.fragmentationNeeded, 0,
      (max mtu (PathMtu.floor .inet)).toUInt32, Icmp.ipv4Quote original⟩).length ≤ 131074 := by
    rw [IcmpMessage.length_encode]
    exact Nat.le_trans (Nat.add_le_add_left brief 8) (by decide)
  rw [needFragMessage, bind_ok found, bind_ok reach, size, bind_ok length, bind_ok cut,
    bind_ok filled, bind_ok (wordSum_ok summed)]
  exact stamp_eq _ _

/-- The length of a short message is added to its protocol as it is. -/
theorem noticeSum_eq (source destination : Ipv6Address) {length : Nat} (short : length ≤ 1240) :
    noticeSum source destination length =
      some (Checksum.combine (Checksum.addressPairSum (.v6 source) (.v6 destination))
        (Checksum.trailerSum (UpperProtocol.icmp.number .inet6) (UInt32.ofNat length))) := by
  have value : (UInt32.ofNat length).toNat = length := Nat.mod_eq_of_lt (by omega)
  have protocol : (UpperProtocol.icmp.number .inet6).toUInt32.toNat = 58 := rfl
  have added : Checksum.Checked.add (UpperProtocol.icmp.number .inet6).toUInt32
      (UInt32.ofNat length) =
        some (Checksum.trailerSum (UpperProtocol.icmp.number .inet6) (UInt32.ofNat length)) := by
    rw [Checksum.Checked.add_eq (by omega), Option.some_inj, ← UInt32.toNat_inj,
      Checksum.toNat_trailerSum, UInt32.toNat_add, protocol, value,
      show (UpperProtocol.icmp.number .inet6).toNat = 58 from rfl]
    omega
  exact Option.bind_eq_some_iff.mpr ⟨_, pairSum_eq _, Option.bind_eq_some_iff.mpr
    ⟨_, added, Checksum.Checked.combine_eq _ _⟩⟩

theorem tooBigMessage_eq (original : Bytes) (source destination : Ipv6Address) (mtu : UInt32) :
    tooBigMessage original source destination mtu =
      .ok (Icmp.packetTooBigMessage original source destination mtu).encode := by
  have cut := part_quote original Icmp.ipv6QuoteRoom
  have size : min original.length Icmp.ipv6QuoteRoom =
      (original.take Icmp.ipv6QuoteRoom).length := by
    rw [List.length_take, Nat.min_comm]
  rw [size] at cut
  have brief : (original.take Icmp.ipv6QuoteRoom).length ≤ 1232 := List.length_take_le _ _
  have length : addSize IcmpMessage.headerLength (original.take Icmp.ipv6QuoteRoom).length =
      .ok _ :=
    addSize_eq (by rw [IcmpMessage.headerLength]; omega)
  have filled := tooBigBuffer_eq mtu (original.take Icmp.ipv6QuoteRoom)
  have pseudo : ofOption (noticeSum source destination
      (IcmpMessage.headerLength + (original.take Icmp.ipv6QuoteRoom).length)) = .ok _ :=
    congrArg ofOption (noticeSum_eq source destination
      (Nat.add_le_add_left brief IcmpMessage.headerLength))
  have summed : (IcmpMessage.encode ⟨Icmp.packetTooBig, 0, 0,
      max mtu (PathMtu.floor .inet6).toUInt32, original.take Icmp.ipv6QuoteRoom⟩).length ≤
        131074 := by
    rw [IcmpMessage.length_encode]
    exact Nat.le_trans (Nat.add_le_add_left brief 8) (by decide)
  rw [tooBigMessage, size, bind_ok length, bind_ok cut, bind_ok filled, bind_ok pseudo,
    bind_ok (wordSum_ok summed), bind_ok (combine_ok _ _), stamp_eq, Icmp.packetTooBigMessage]
  simp only [IcmpMessage.length_encode, IcmpMessage.headerLength]

theorem needFragNotice_eq (original : Bytes) (source destination : Ipv4Address)
    (mtu : UInt16) :
    needFragNotice original source destination mtu =
      .ok (Icmp.fragmentationNeededNotice original source destination mtu) := by
  have short := Icmp.length_fragmentationNeededMessage_le original mtu
  rw [needFragNotice, bind_ok (needFragMessage_eq original mtu),
    bind_ok (emitIpv4_eq _ (Nat.le_trans short (by decide)))]
  rfl

theorem tooBigNotice_eq (original : Bytes) (source destination : Ipv6Address)
    (mtu : UInt32) :
    tooBigNotice original source destination mtu =
      .ok (Icmp.packetTooBigNotice original source destination mtu) := by
  rw [tooBigNotice, bind_ok (tooBigMessage_eq original source destination mtu)]
  rfl

end FamilyGateway.Checked
