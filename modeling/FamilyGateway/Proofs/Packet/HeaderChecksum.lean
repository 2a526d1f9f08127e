import FamilyGateway.Proofs.Checksum.Carries
import FamilyGateway.Proofs.Packet.WellFormed

/-!
# The checksum and the fields of an IPv4 header

The checksum of a header covers as many bytes as the header says it has, if there are so
many (`Checksum.headerPart`), and counts its own two bytes as zero. It skips them by
summing up what is in front of them and what is behind them, which is the same thing for
bytes of any number, even where they end before or within the checksum
(`Checksum.ipv4Header_eq_ofTotal`). So what is stored as the checksum has no part in it,
and a header that stores it folds to all ones (`Checksum.checksumsHeader`).

A header that is emitted is read as what it was emitted for (`Ipv4Header.ReadsBack`). An
offset keeps its multiple of eight and a length its low sixteen bits, since there is room
for no more in the fields.
-/

set_option autoImplicit false

namespace FamilyGateway

/-! ## Checksums of any bytes -/

namespace Checksum

/-- The bytes that the checksum of a header covers: four for each unit that the low half of the
first byte counts, but no more than there are. -/
def headerPart (header : Bytes) : Bytes :=
  header.take (min (4 * ((header.headD 0).toNat % 16)) header.length)

/-- A header with a word in the place of its checksum, as far as the header goes. -/
def restamp (word : UInt16) (header : Bytes) : Bytes :=
  (header.set 10 (Wire.high word)).set 11 (Wire.low word)

theorem length_headerPart_le (header : Bytes) : (headerPart header).length ≤ 60 := by
  rw [headerPart, List.length_take]
  omega

theorem length_restamp (word : UInt16) (header : Bytes) :
    (restamp word header).length = header.length := by
  rw [restamp, List.length_set, List.length_set]

/-- Of two words that are put in, the second one stays. -/
theorem restamp_restamp (word other : UInt16) (header : Bytes) :
    restamp word (restamp other header) = restamp word header := by
  simp only [restamp]
  rw [List.set_comm (Wire.low other) _ (by decide), List.set_set, List.set_set]

/-- How much of a header counts does not depend on its checksum. -/
theorem headerPart_restamp (word : UInt16) (header : Bytes) :
    headerPart (restamp word header) = restamp word (headerPart header) := by
  have first : (restamp word header).headD 0 = header.headD 0 := by
    cases header <;> rfl
  simp only [headerPart, first, length_restamp]
  rw [restamp, List.take_set, List.take_set, restamp]

/-- Behind ten bytes, the word is put in front of what remains. -/
theorem total_restamp {data : Bytes} (reaches : 10 < data.length) (word : UInt16) :
    total (restamp word data) = total (data.take 10) +
      total (((data.drop 10).set 0 (Wire.high word)).set 1 (Wire.low word)) := by
  have length : (data.take 10).length = 10 := by
    rw [List.length_take]
    omega
  have parts : restamp word data = data.take 10 ++
      ((data.drop 10).set 0 (Wire.high word)).set 1 (Wire.low word) :=
    calc restamp word data
      _ = restamp word (data.take 10 ++ data.drop 10) := by rw [List.take_append_drop]
      _ = _ := by
          rw [restamp, List.set_append_right _ _ (by omega), List.set_append_right _ _ (by omega),
            length]
  rw [parts, total_append _ _ (by omega)]

/-- With zero for a checksum, what is summed up is what is in front of it and what is behind it. -/
theorem total_restamp_zero (data : Bytes) :
    total (restamp 0 data) = total (data.take 10) + total (data.drop 12) := by
  by_cases reaches : 10 < data.length
  · have behind : data.drop 12 = (data.drop 10).drop 2 := by rw [List.drop_drop]
    rw [total_restamp reaches, behind]
    congr 1
    match data.drop 10 with
    | [] => rfl
    | [_] => rfl
    | _ :: _ :: rest => exact Nat.zero_add _
  · have same : data.set 10 (Wire.high 0) = data := List.set_eq_of_length_le (by omega)
    rw [restamp, same, List.set_eq_of_length_le (by omega), List.take_of_length_le (by omega),
      List.drop_of_length_le (by omega), total, Nat.add_zero]

/-- A word in the place of the checksum is summed up with the rest. -/
theorem total_restamp_word {data : Bytes} (reaches : 12 ≤ data.length) (word : UInt16) :
    total (restamp word data) = total (restamp 0 data) + word.toNat := by
  have length : (data.drop 10).length = data.length - 10 := List.length_drop
  rw [total_restamp (by omega), total_restamp (by omega), Nat.add_assoc]
  congr 1
  match tail : data.drop 10 with
  | [] =>
      rw [tail, List.length_nil] at length
      omega
  | [_] =>
      rw [tail, List.length_singleton] at length
      omega
  | _ :: _ :: rest =>
      have bound := word.toNat_lt
      simp only [List.set_cons_zero, List.set_cons_succ, total, Wire.toNat_high, Wire.toNat_low,
        UInt16.toNat_zero]
      omega

/-- **The checksum of a header is the one of the part that counts, with zero for a checksum.** -/
theorem ipv4Header_eq_ofTotal (header : Bytes) :
    ipv4Header header = ofTotal (total (restamp 0 (headerPart header))) := by
  have size := length_headerPart_le header
  rw [total_restamp_zero]
  cases header with
  | nil => exact ofSum_eq_ofTotal 0
  | cons first rest =>
      have covered : (first :: rest).take ((first % 16).toNat * 4) =
          headerPart (first :: rest) := by
        rw [headerPart, List.take_eq_take_iff, List.headD_cons, UInt8.toNat_mod,
          show (16 : UInt8).toNat = 16 from rfl]
        omega
      simp only [ipv4Header, covered]
      split
      next long =>
        rw [ofSum_combine, toNat_wordSum _ (by rw [List.length_take]; omega),
          toNat_wordSum _ (by rw [List.length_drop]; omega)]
      next short =>
        rw [ofSum_eq_ofTotal, toNat_wordSum _ (by rw [List.length_take]; omega),
          List.drop_of_length_le (by omega), total, Nat.add_zero]

/-- What is known about the checksum of a header, whatever bytes it has. -/
structure ChecksumsHeader (header : Bytes) : Prop where
  /-- It is the complement of what the part that counts folds to, with zero for a checksum. -/
  value : ipv4Header header = ofSum (wordSum (restamp 0 (headerPart header)))
  /-- It does not depend on the checksum that is stored. -/
  ignores : ∀ stored, ipv4Header (restamp stored header) = ipv4Header header
  /-- If there is room for it, the part that counts folds to all ones once it is stored. -/
  verifies : 12 ≤ (headerPart header).length →
    fold (wordSum (headerPart (restamp (ipv4Header header) header))) = 0xffff

theorem checksumsHeader (header : Bytes) : ChecksumsHeader header where
  value := by
    have size := length_headerPart_le header
    rw [ipv4Header_eq_ofTotal, ofSum_eq_ofTotal,
      toNat_wordSum _ (by rw [length_restamp]; omega)]
  ignores stored := by
    rw [ipv4Header_eq_ofTotal, headerPart_restamp, restamp_restamp, ← ipv4Header_eq_ofTotal]
  verifies room := by
    have size := length_headerPart_le header
    rw [← UInt16.toNat_inj, toNat_fold_eq_endAround, headerPart_restamp,
      toNat_wordSum _ (by rw [length_restamp]; omega), total_restamp_word room,
      ipv4Header_eq_ofTotal, endAround_add_ofTotal]
    rfl

end Checksum

/-! ## Headers that are emitted -/

/-- An offset is written without what is left of it beyond a multiple of eight. -/
theorem Ipv4Fields.flagWord_floor (dontFragment moreFragments : Bool) (offset : UInt16) :
    flagWord dontFragment moreFragments (offset / 8 * 8) =
      flagWord dontFragment moreFragments offset := by
  have bound := offset.toNat_lt
  rw [← UInt16.toNat_inj, toNat_flagWord, toNat_flagWord]
  simp only [UInt16.toNat_mul, UInt16.toNat_div, UInt16.reduceToNat]
  omega

namespace Ipv4Header

/-- What is read off a header that was emitted in front of some bytes. -/
structure ReadsBack (header : Ipv4Header) (payloadLength : Nat) (fields : Ipv4Fields) :
    Prop where
  read : Ipv4Fields.read? (header.emit payloadLength) = some (fields, [])
  version : fields.version = 4
  headerLength : fields.headerLength = 20
  source : fields.source = header.source
  destination : fields.destination = header.destination
  protocol : fields.protocol = header.protocol
  timeToLive : fields.timeToLive = header.timeToLive
  identification : fields.identification = header.identification
  dontFragment : fields.dontFragment = header.dontFragment
  moreFragments : fields.moreFragments = header.moreFragments
  /-- The offset is rounded down to a multiple of eight. -/
  fragmentOffset : fields.fragmentOffset = header.fragmentOffset / 8 * 8
  aligned : header.fragmentOffset.toNat % 8 = 0 → fields.fragmentOffset = header.fragmentOffset
  /-- The length keeps its low sixteen bits. -/
  totalLength : fields.totalLength.toNat = (20 + payloadLength) % 65536
  fits : payloadLength ≤ 65515 → fields.totalLength.toNat = 20 + payloadLength
  /-- The checksum is the one of the header, and makes its words fold to all ones. -/
  checksum : fields.checksum = Checksum.ipv4Header (header.emit payloadLength)
  verifies : Checksum.fold (Checksum.wordSum (header.emit payloadLength)) = 0xffff

/-- A header is emitted with its checksum in the place of the zero. -/
theorem emit_eq_restamp (header : Ipv4Header) (payloadLength : Nat) :
    header.emit payloadLength =
      Checksum.restamp (Checksum.ipv4Header (header.blank payloadLength).encode)
        (header.blank payloadLength).encode :=
  rfl

theorem readsBack (header : Ipv4Header) (payloadLength : Nat) :
    header.ReadsBack payloadLength (header.fields payloadLength) := by
  have read := Ipv4Fields.read?_encode (header.fields payloadLength) []
  rw [List.append_nil] at read
  obtain ⟨version, headerLength⟩ : (header.fields payloadLength).version = 4 ∧
      (header.fields payloadLength).headerLength = 20 := Ipv4Fields.of_first rfl
  have floored : (header.fragmentOffset / 8 * 8).toNat % 8 = 0 := by
    have bound := header.fragmentOffset.toNat_lt
    simp only [UInt16.toNat_mul, UInt16.toNat_div, UInt16.reduceToNat]
    omega
  have word : (header.fields payloadLength).flagsAndOffset = Ipv4Fields.flagWord
      header.dontFragment header.moreFragments (header.fragmentOffset / 8 * 8) :=
    (Ipv4Fields.flagWord_floor _ _ _).symm
  obtain ⟨dontFragment, moreFragments, fragmentOffset⟩ := Ipv4Fields.read_flagWord word floored
  have totalLength : (header.fields payloadLength).totalLength.toNat =
      (20 + payloadLength) % 65536 := UInt16.toNat_ofNat'
  refine ⟨read, version, headerLength, rfl, rfl, rfl, rfl, rfl, dontFragment, moreFragments,
    fragmentOffset, fun aligned => ?_, totalLength, fun fits => ?_, ?_, ?_⟩
  · exact (Ipv4Fields.read_flagWord rfl aligned).2.2
  · rw [totalLength, Nat.mod_eq_of_lt (by omega)]
  · rw [emit_eq_restamp, (Checksum.checksumsHeader _).ignores]
    rfl
  · exact of_decide_eq_true (header.verifiesAlone_emit payloadLength)

/-- **A header is read as what it was emitted for**, and the checksum of a header is the one of its
words, whatever is stored in its place. -/
theorem checksummed_reads_back :
    (∀ bytes, Checksum.ChecksumsHeader bytes) ∧
      ∀ header payloadLength, ∃ fields, ReadsBack header payloadLength fields :=
  ⟨Checksum.checksumsHeader, fun header payloadLength => ⟨_, header.readsBack payloadLength⟩⟩

/-- A header of three units with one more byte behind it, which does not count. -/
def shortHeader : Bytes :=
  [0x43, 0x00, 0x00, 0x73, 0x00, 0x00, 0x40, 0x00, 0x40, 0x11, 0xab, 0xcd, 0xff]

/-- The header of the last fragment of a datagram, with the offset that is closest to the limit. -/
def lastHeader : Ipv4Header :=
  ⟨⟨192, 0, 2, 1⟩, ⟨198, 51, 100, 7⟩, 17, 63, 0x1234, true, true, 65528⟩

/-- The short header folds to all ones with its checksum, and the offset and the length of the last
one come back as they are. -/
theorem checksummed_reads_back_late :
    12 ≤ (Checksum.headerPart shortHeader).length ∧
      Checksum.fold (Checksum.wordSum (Checksum.headerPart
        (Checksum.restamp (Checksum.ipv4Header shortHeader) shortHeader))) = 0xffff ∧
      lastHeader.fragmentOffset.toNat % 8 = 0 ∧
      ∃ fields, lastHeader.ReadsBack 65515 fields ∧ fields.fragmentOffset = 65528 ∧
        fields.totalLength = 65535 := by
  have room : 12 ≤ (Checksum.headerPart shortHeader).length := by decide
  have aligned : lastHeader.fragmentOffset.toNat % 8 = 0 := by decide
  obtain ⟨fields, reads⟩ := checksummed_reads_back.2 lastHeader 65515
  exact ⟨room, (checksummed_reads_back.1 shortHeader).verifies room, aligned, fields, reads,
    reads.aligned aligned, UInt16.toNat_inj.mp (reads.fits (Nat.le_refl _))⟩

end Ipv4Header

end FamilyGateway
