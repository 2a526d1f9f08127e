import FamilyGateway.Proofs.Translator.Crossings
import FamilyGateway.Proofs.Treatment.Effects

/-!
# The treatment of a packet as a program

Here a packet is treated step by step, in the order in which a gateway does it. A packet is read,
a message may be taken in, addresses are looked up, a payload is rewritten, and a notice may be
made before the packets are put together. Any of these steps can drop the packet, and some of
them come after steps that may have changed the translator (`Procedure.treat`).

The translator's own description of a packet's treatment makes a plan first and carries it out
afterwards, when nothing can go wrong any more. The program comes to the same end: with the same
packets or the same reason to drop, the same translator and the same log, and never with a fault
(`Procedure.run_treat`). So the steps that change something stand where nothing after them can
drop the packet, and no position and no number of fixed width is exceeded for any packet at all.
-/

set_option autoImplicit false

namespace FamilyGateway

namespace Procedure

/-! ## The program -/

/-- The way of an IPv4 packet that crosses. -/
def crossToIpv6 (table : MappingTable) (datagram : Ipv4Datagram) (protocol : UpperProtocol) :
    Checked FourToSix :=
  match table.fourToSix datagram.fields.source datagram.fields.destination with
  | .error error => Checked.drop (.mapping error)
  | .ok (source, destination) => do
    let payload ← Checked.payloadToIpv6 datagram protocol source destination
    .ok
      { source := source
        destination := destination
        protocol := protocol
        hopLimit := datagram.fields.timeToLive
        identification := datagram.fields.identification
        offset := datagram.fields.fragmentOffset
        moreFragments := datagram.fields.moreFragments
        payload := payload }

/-- The way of an IPv6 packet that crosses. -/
def crossToIpv4 (table : MappingTable) (datagram : Ipv6Datagram) : Checked SixToFour :=
  if datagram.protocol = .icmp ∧ datagram.isFragment then Checked.drop .fragmentedIcmp
  else do
    let stop ← Checked.addSize datagram.fragmentOffset.toNat datagram.payload.length
    if maxDatagram < stop then Checked.drop .oversized
    else
      match table.sixToFour datagram.fields.source datagram.fields.destination with
      | .error error => Checked.drop (.mapping error)
      | .ok (source, destination) => do
        let payload ← Checked.payloadToIpv4 datagram source destination
        .ok
          { source := source
            destination := destination
            protocol := datagram.protocol
            timeToLive := datagram.fields.hopLimit
            identification := datagram.fragment.map FragmentHeader.identification
            offset := datagram.fragmentOffset
            moreFragments := datagram.moreFragments
            payload := payload }

/-- Sends a packet on to IPv6, in as many packets as the path asks for. -/
def dispatchToIpv6 (surroundings : Surroundings) (packet : Bytes) (datagram : Ipv4Datagram)
    (crossing : FourToSix) : Procedure (List OutboundPacket) := do
  let mtu ← look (·.pathMtu.lookup (.v6 crossing.destination))
  let identification := crossing.identificationOr surroundings.drawn
  if FourToSix.room mtu < crossing.payload.length then do
    let declared ← Checked.part packet 0 datagram.fields.totalLength.toNat
    let notices ← notifyIpv4 surroundings declared datagram.fields.source
      (FourToSix.advertisedMtu mtu)
    let fragments ← Checked.split (FourToSix.room mtu) crossing.payload
      (Checked.pieceToIpv6 crossing identification)
    pure (notices ++ fragments)
  else if crossing.isFragment then do
    let fragment ← Checked.partToIpv6 crossing identification crossing.offset
      crossing.moreFragments crossing.payload
    pure [fragment]
  else pure [crossing.whole]

/-- Sends a packet on to IPv4, in as many packets as the path asks for. -/
def dispatchToIpv4 (surroundings : Surroundings) (packet : Bytes) (datagram : Ipv6Datagram)
    (crossing : SixToFour) : Procedure (List OutboundPacket) := do
  let mtu ← look (·.pathMtu.lookup (.v4 crossing.destination))
  let size ← Checked.addSize Ipv4Fields.byteLength crossing.payload.length
  if mtu.toNat < size then do
    let hint ← Checked.ofOption (Checksum.Checked.add mtu.toUInt32
      (UInt32.ofNat (Ipv6Fields.byteLength - Ipv4Fields.byteLength)))
    let notices ← notifyIpv6 surroundings packet datagram.fields.source hint
    let fragments ← Checked.split (SixToFour.room mtu) crossing.payload
      (Checked.pieceToIpv4 crossing surroundings.drawn)
    pure (notices ++ fragments)
  else do
    let whole ← Checked.wholeToIpv4 crossing surroundings.drawn
    pure [whole]

/-- Treats an IPv4 packet that crosses. -/
def forwardToIpv6 (surroundings : Surroundings) (packet : Bytes) (datagram : Ipv4Datagram)
    (protocol : UpperProtocol) : Procedure (List OutboundPacket) := do
  let table ← look Translator.table
  let crossing ← crossToIpv6 table datagram protocol
  dispatchToIpv6 surroundings packet datagram crossing

/-- Treats an ICMP message from the IPv4 side. -/
def sendMessage (surroundings : Surroundings) (packet : Bytes) (datagram : Ipv4Datagram) :
    Procedure (List OutboundPacket) :=
  if datagram.isFragment then drop .fragmentedIcmp
  else do
    match ← processInbound surroundings.now datagram.payload with
    | .forward => forwardToIpv6 surroundings packet datagram .icmp
    | .discard => do
      -- The type is looked at once more, to be logged.
      let _ ← Checked.byteAt datagram.payload 0
      pure []

/-- Treats a packet from the IPv4 side. -/
def sendFourToSix (surroundings : Surroundings) (packet : Bytes) :
    Procedure (List OutboundPacket) := do
  let datagram ← Checked.readIpv4 packet
  let stop ← Checked.addSize datagram.fields.fragmentOffset.toNat datagram.payload.length
  if maxDatagram < stop then drop .oversized
  else
    match UpperProtocol.ofNumber? .inet datagram.fields.protocol with
    | none => drop (.protocol datagram.fields.protocol)
    | some .icmp => sendMessage surroundings packet datagram
    | some protocol => forwardToIpv6 surroundings packet datagram protocol

/-- Treats an IPv6 packet that crosses. -/
def sendSixToFour (surroundings : Surroundings) (packet : Bytes) (datagram : Ipv6Datagram) :
    Procedure (List OutboundPacket) := do
  let table ← look Translator.table
  let crossing ← crossToIpv4 table datagram
  dispatchToIpv4 surroundings packet datagram crossing

/-- The packet that an IPv6 packet becomes whose addresses are replaced. -/
def readdressed (table : MappingTable) (packet : Bytes) (datagram : Ipv6Datagram) :
    Checked OutboundPacket :=
  match table.sixToSix datagram.fields.source datagram.fields.destination with
  | .error error => Checked.drop (.mapping error)
  | .ok (source, destination) => do
    let payload ← Checked.payloadWithinIpv6 datagram source destination
    let header ← Checked.part packet 0 Ipv6Fields.byteLength
    let header ← Checked.write header 8 24 source.octets
    let header ← Checked.write header 24 40 destination.octets
    match datagram.fragment with
    | none => .ok ⟨.inet6, header, none, payload⟩
    | some fragment => do
      let fragment ← Checked.encodeFragment fragment
      .ok ⟨.inet6, header, some fragment, payload⟩

/-- Treats an IPv6 packet that stays in IPv6. -/
def sendSixToSix (packet : Bytes) (datagram : Ipv6Datagram) :
    Procedure (List OutboundPacket) := do
  let table ← look Translator.table
  let outbound ← readdressed table packet datagram
  pure [outbound]

/-- Treats a packet from the IPv6 side. -/
def receiveIpv6 (surroundings : Surroundings) (packet : Bytes) :
    Procedure (List OutboundPacket) := do
  let datagram ← Checked.readIpv6 packet
  if Plan.isPacketTooBig datagram then do
    processTooBig surroundings.now datagram.payload
    pure []
  else do
    let table ← look Translator.table
    match table.classify datagram.fields.source datagram.fields.destination with
    | some .sixToFour => sendSixToFour surroundings packet datagram
    | some .sixToSix => sendSixToSix packet datagram
    | none => drop (.unclassified datagram.fields.source datagram.fields.destination)

/-- Treats a packet. -/
def treat (surroundings : Surroundings) : Family → Bytes → Procedure (List OutboundPacket)
  | .inet, packet => sendFourToSix surroundings packet
  | .inet6, packet => receiveIpv6 surroundings packet

/-! ## Where it ends -/

/-- How a program ends that carries out a plan, if there is one. -/
def planEnding (translator : Translator) (surroundings : Surroundings) (log : List LogLine) :
    Except DropReason Plan → EStateM.Result Halt Progress (List OutboundPacket)
  | .error reason => .error (.drop reason) ⟨translator, log⟩
  | .ok plan => outcomeEnding (translator.carryOut surroundings plan) log

variable {translator : Translator} {surroundings : Surroundings}

theorem crossToIpv6_eq (table : MappingTable) {datagram : Ipv4Datagram}
    (protocol : UpperProtocol) (short : datagram.payload.length ≤ 65535) :
    crossToIpv6 table datagram protocol =
      Checked.ofResult (FourToSix.ofDatagram table datagram protocol) := by
  unfold crossToIpv6 FourToSix.ofDatagram
  cases table.fourToSix datagram.fields.source datagram.fields.destination with
  | error error => rfl
  | ok endpoints =>
      obtain ⟨source, destination⟩ := endpoints
      dsimp only
      rw [Checked.payloadToIpv6_eq short]
      cases FourToSix.convertPayload datagram protocol source destination <;> rfl

theorem crossToIpv4_eq (table : MappingTable) {datagram : Ipv6Datagram}
    (short : datagram.payload.length ≤ 65535) :
    crossToIpv4 table datagram = Checked.ofResult (SixToFour.ofDatagram table datagram) := by
  have bound := datagram.fragmentOffset.toNat_lt
  have stop : Checked.addSize datagram.fragmentOffset.toNat datagram.payload.length = .ok _ :=
    Checked.addSize_eq (by omega)
  unfold crossToIpv4 SixToFour.ofDatagram
  split
  next => rfl
  next =>
    rw [Checked.bind_ok stop]
    split
    next => rfl
    next =>
      cases table.sixToFour datagram.fields.source datagram.fields.destination with
      | error error => rfl
      | ok endpoints =>
          obtain ⟨source, destination⟩ := endpoints
          dsimp only
          rw [Checked.payloadToIpv4_eq short]
          cases SixToFour.convertPayload datagram source destination <;> rfl

/-- The source address of a header, written over. -/
theorem write_source (fields : Ipv6Fields) (source : Ipv6Address) :
    Checked.write fields.encode 8 24 source.octets =
      .ok { fields with source := source }.encode :=
  Checked.write_eq (by decide) (show 24 ≤ 40 by decide) rfl

/-- The destination address of a header, written over. -/
theorem write_destination (fields : Ipv6Fields) (destination : Ipv6Address) :
    Checked.write fields.encode 24 40 destination.octets =
      .ok { fields with destination := destination }.encode :=
  (Checked.write_eq (by decide) (Nat.le_refl 40) rfl).trans (congrArg _ (List.append_nil _))

theorem readdressed_eq (table : MappingTable) {packet : Bytes} {datagram : Ipv6Datagram}
    (read : Ipv6Datagram.read packet = .ok datagram)
    (short : datagram.payload.length ≤ 65535) :
    readdressed table packet datagram = Checked.ofResult (SixToSix.packet table datagram) := by
  obtain ⟨rest, found⟩ := Ipv6Datagram.fields_of_read read
  obtain rfl := Ipv6Fields.eq_of_read? found
  have header : Checked.part (datagram.fields.encode ++ rest) 0 Ipv6Fields.byteLength =
      .ok datagram.fields.encode := by
    rw [Checked.part_zero (by simp [Ipv6Fields.byteLength])]
    rfl
  unfold readdressed SixToSix.packet
  cases table.sixToSix datagram.fields.source datagram.fields.destination with
  | error error => rfl
  | ok endpoints =>
      obtain ⟨source, destination⟩ := endpoints
      dsimp only
      rw [Checked.payloadWithinIpv6_eq short]
      cases SixToSix.convertPayload datagram source destination with
      | error reason => rfl
      | ok payload =>
          rw [Checked.bind_ok (show Checked.ofResult (.ok payload) = .ok payload from rfl),
            Checked.bind_ok header, Checked.bind_ok (write_source _ source),
            Checked.bind_ok (write_destination _ destination)]
          cases datagram.fragment with
          | none => rfl
          | some fragment => exact Checked.bind_ok (Checked.encodeFragment_eq fragment) _

/-! ## Sending packets on -/

theorem fits_of_ofDatagram {table : MappingTable} {datagram : Ipv4Datagram}
    {protocol : UpperProtocol} {crossing : FourToSix}
    (crosses : FourToSix.ofDatagram table datagram protocol = .ok crossing)
    (fits : datagram.fields.fragmentOffset.toNat + datagram.payload.length ≤ 65535) :
    crossing.offset.toNat + crossing.payload.length ≤ 65535 := by
  obtain ⟨leads, converted, carries⟩ := FourToSix.of_ofDatagram crosses
  rw [carries.offset, PacketView.length_convert rfl rfl converted]
  exact fits

theorem run_dispatchToIpv6 (log : List LogLine) (surroundings : Surroundings) {packet : Bytes}
    {datagram : Ipv4Datagram} {crossing : FourToSix} (fit : translator.CountersFit)
    (declared : datagram.fields.totalLength.toNat ≤ packet.length)
    (fits : crossing.offset.toNat + crossing.payload.length ≤ 65535) :
    (dispatchToIpv6 surroundings packet datagram crossing).run ⟨translator, log⟩ =
      outcomeEnding (translator.carryOut surroundings (.toIpv6 datagram.fields.source
        (packet.take datagram.fields.totalLength.toNat) crossing)) log := by
  have whole := Checked.part_zero declared
  rw [dispatchToIpv6, run_look, Translator.carryOut]
  dsimp only
  generalize translator.pathMtu.lookup (.v6 crossing.destination) = mtu
  by_cases split : FourToSix.room mtu < crossing.payload.length
  · have carries : crossing.payload ≠ [] := List.ne_nil_of_length_pos (by omega)
    have fragments := Checked.split_pieceToIpv6 (crossing.identificationOr surroundings.drawn)
      (FourToSix.room mtu) fits carries
    have isSplit : crossing.isSplit mtu = true := decide_eq_true split
    rw [if_pos split, check_ok whole, run_bind_ok (run_notifyIpv4 log surroundings _ _ _ fit),
      check_ok fragments, run_pure, if_pos isSplit, FourToSix.packets, if_pos isSplit]
    rfl
  · have isWhole : ¬ crossing.isSplit mtu = true := fun larger => split (of_decide_eq_true larger)
    have short : crossing.payload.length ≤ 65535 := by omega
    have only := Checked.wholeFragmentToIpv6 crossing
      (crossing.identificationOr surroundings.drawn) short
    rw [if_neg split, if_neg isWhole, FourToSix.packets, if_neg isWhole,
      outcomeEnding_silent]
    split
    next => rw [check_ok only, run_pure]
    next => rw [run_pure]

theorem run_dispatchToIpv4 (log : List LogLine) (surroundings : Surroundings) {packet : Bytes}
    {datagram : Ipv6Datagram} {crossing : SixToFour} (fit : translator.CountersFit)
    (floored : translator.pathMtu.Floored)
    (fits : crossing.offset.toNat + crossing.payload.length ≤ 65535) :
    (dispatchToIpv4 surroundings packet datagram crossing).run ⟨translator, log⟩ =
      outcomeEnding (translator.carryOut surroundings
        (.toIpv4 datagram.fields.source packet crossing)) log := by
  have size : Checked.addSize Ipv4Fields.byteLength crossing.payload.length = .ok _ :=
    Checked.addSize_eq (by rw [Ipv4Fields.byteLength]; omega)
  have floor : 68 ≤ (translator.pathMtu.lookup (.v4 crossing.destination)).toNat :=
    floored.floor_le_lookup (.v4 crossing.destination)
  rw [dispatchToIpv4, run_look, check_ok size, Translator.carryOut]
  dsimp only
  generalize translator.pathMtu.lookup (.v4 crossing.destination) = mtu at floor
  by_cases split : mtu.toNat < Ipv4Fields.byteLength + crossing.payload.length
  · have carries : crossing.payload ≠ [] :=
      List.ne_nil_of_length_pos (by rw [Ipv4Fields.byteLength] at split; omega)
    have hint : Checked.ofOption (Checksum.Checked.add mtu.toUInt32
        (UInt32.ofNat (Ipv6Fields.byteLength - Ipv4Fields.byteLength))) =
          .ok (SixToFour.advertisedMtu mtu) := by
      have bound := mtu.toNat_lt
      have growth : (UInt32.ofNat (Ipv6Fields.byteLength - Ipv4Fields.byteLength)).toNat = 20 := rfl
      rw [Checksum.Checked.add_eq (by rw [UInt16.toNat_toUInt32, growth]; omega)]
      rfl
    have fragments := Checked.split_pieceToIpv4 surroundings.drawn (SixToFour.room mtu) fits
      carries
    have isSplit : crossing.isSplit mtu = true := decide_eq_true split
    rw [if_pos split, check_ok hint, run_bind_ok (run_notifyIpv6 log surroundings _ _ _ fit),
      check_ok fragments, run_pure, if_pos isSplit, SixToFour.packets, if_pos isSplit]
    rfl
  · have isWhole : ¬ crossing.isSplit mtu = true := fun larger => split (of_decide_eq_true larger)
    have whole := Checked.wholeToIpv4_eq crossing surroundings.drawn (by omega)
    rw [if_neg split, if_neg isWhole, SixToFour.packets, if_neg isWhole,
      outcomeEnding_silent, check_ok whole, run_pure]

/-! ## The two sides -/

theorem run_forwardToIpv6 (log : List LogLine) (surroundings : Surroundings) {packet : Bytes}
    {datagram : Ipv4Datagram} (protocol : UpperProtocol) (fit : translator.CountersFit)
    (sound : datagram.Sound packet)
    (fits : datagram.fields.fragmentOffset.toNat + datagram.payload.length ≤ 65535) :
    (forwardToIpv6 surroundings packet datagram protocol).run ⟨translator, log⟩ =
      planEnding translator surroundings log
        (Plan.forwardIpv4 translator.table packet datagram protocol) := by
  have crosses := crossToIpv6_eq translator.table protocol
    (show datagram.payload.length ≤ 65535 by omega)
  rw [forwardToIpv6, run_look, Plan.forwardIpv4]
  cases made : FourToSix.ofDatagram translator.table datagram protocol with
  | error reason =>
      rw [made] at crosses
      rw [check_drop crosses]
      rfl
  | ok crossing =>
      rw [made] at crosses
      rw [check_ok crosses]
      exact run_dispatchToIpv6 log surroundings fit sound.arrived (fits_of_ofDatagram made fits)

/-- A message ends here unless it is to go on, and then nothing is sent. -/
theorem run_message (log : List LogLine) (surroundings : Surroundings) {packet : Bytes}
    {datagram : Ipv4Datagram} (fit : translator.CountersFit) (sound : datagram.Sound packet)
    (fits : datagram.fields.fragmentOffset.toNat + datagram.payload.length ≤ 65535) :
    (sendMessage surroundings packet datagram).run ⟨translator, log⟩ =
      planEnding translator surroundings log
        (Plan.ofIcmp translator.table packet datagram) := by
  unfold sendMessage Plan.ofIcmp
  split
  next => rfl
  next =>
    have processed := run_processInbound log surroundings.now datagram.payload fit
    cases advised : Icmp.advise datagram.payload with
    | error error =>
        rw [advised] at processed
        exact run_bind_error processed
    | ok advice =>
        rw [advised] at processed
        have long := Icmp.exists_advise_iff.mp ⟨advice, advised⟩
        obtain ⟨type, typed⟩ := Checked.exists_byteAt
          (show 0 < datagram.payload.length by omega)
        cases advice with
        | forward =>
            rw [run_bind_ok processed]
            exact run_forwardToIpv6 log surroundings .icmp fit sound fits
        | discardUnquoted =>
            rw [run_bind_ok processed]
            dsimp only
            rw [check_ok typed, run_pure]
            rfl
        | discard report =>
            cases report with
            | none =>
                rw [run_bind_ok processed]
                dsimp only
                rw [check_ok typed, run_pure]
                exact (outcomeEnding_silent translator [] log).symm
            | some report =>
                rw [run_bind_ok processed]
                dsimp only
                rw [check_ok typed, run_pure]
                exact (outcomeEnding_silent _ [] log).symm

theorem run_sendFourToSix (log : List LogLine) (surroundings : Surroundings) (packet : Bytes)
    (fit : translator.CountersFit) :
    (sendFourToSix surroundings packet).run ⟨translator, log⟩ =
      planEnding translator surroundings log (Plan.ofIpv4 translator.table packet) := by
  have reads := Checked.readIpv4_eq packet
  rw [sendFourToSix, Plan.ofIpv4]
  cases read : Ipv4Datagram.read packet with
  | error reason =>
      rw [read] at reads
      rw [check_drop reads]
      rfl
  | ok datagram =>
      have sound := Ipv4Datagram.sound read
      have bound := datagram.fields.fragmentOffset.toNat_lt
      have total := datagram.fields.totalLength.toNat_lt
      have declared := sound.declared
      have stop : Checked.addSize datagram.fields.fragmentOffset.toNat
          datagram.payload.length = .ok _ := Checked.addSize_eq (by omega)
      rw [read] at reads
      rw [check_ok reads, check_ok stop]
      dsimp only
      split
      next => rfl
      next larger =>
        have fits := Nat.le_of_not_lt larger
        cases UpperProtocol.ofNumber? .inet datagram.fields.protocol with
        | none => rfl
        | some protocol =>
            cases protocol with
            | icmp => exact run_message log surroundings fit sound fits
            | tcp => exact run_forwardToIpv6 log surroundings .tcp fit sound fits
            | udp => exact run_forwardToIpv6 log surroundings .udp fit sound fits

theorem run_sendSixToFour (log : List LogLine) (surroundings : Surroundings) (packet : Bytes)
    {datagram : Ipv6Datagram} (fit : translator.CountersFit)
    (floored : translator.pathMtu.Floored) (sound : datagram.Sound)
    (chosen : translator.table.classify datagram.fields.source datagram.fields.destination =
      some .sixToFour) :
    (sendSixToFour surroundings packet datagram).run ⟨translator, log⟩ =
      planEnding translator surroundings log
        (Plan.forwardIpv6 translator.table packet datagram) := by
  have crosses := crossToIpv4_eq translator.table sound.length_payload
  rw [sendSixToFour, run_look, Plan.forwardIpv6]
  cases made : SixToFour.ofDatagram translator.table datagram with
  | error reason =>
      rw [made] at crosses
      rw [check_drop crosses]
      rfl
  | ok crossing =>
      obtain ⟨_, converted, carries, fits, _⟩ := SixToFour.of_ofDatagram chosen made
      have same := PacketView.length_convert rfl rfl converted
      rw [made] at crosses
      rw [check_ok crosses]
      refine run_dispatchToIpv4 log surroundings fit floored ?_
      rw [carries.offset, same]
      exact fits

theorem run_sendSixToSix (log : List LogLine) (surroundings : Surroundings) {packet : Bytes}
    {datagram : Ipv6Datagram} (read : Ipv6Datagram.read packet = .ok datagram) :
    (sendSixToSix packet datagram).run ⟨translator, log⟩ =
      planEnding translator surroundings log
        ((SixToSix.packet translator.table datagram).map .withinIpv6) := by
  have becomes := readdressed_eq translator.table read (Ipv6Datagram.sound read).length_payload
  rw [sendSixToSix, run_look]
  cases made : SixToSix.packet translator.table datagram with
  | error reason =>
      rw [made] at becomes
      rw [check_drop becomes]
      rfl
  | ok outbound =>
      rw [made] at becomes
      rw [check_ok becomes, run_pure]
      exact (outcomeEnding_silent translator [outbound] log).symm

theorem run_receiveIpv6 (log : List LogLine) (surroundings : Surroundings) (packet : Bytes)
    (fit : translator.CountersFit) (floored : translator.pathMtu.Floored) :
    (receiveIpv6 surroundings packet).run ⟨translator, log⟩ =
      planEnding translator surroundings log (Plan.ofIpv6 translator.table packet) := by
  have reads := Checked.readIpv6_eq packet
  rw [receiveIpv6, Plan.ofIpv6]
  cases read : Ipv6Datagram.read packet with
  | error reason =>
      rw [read] at reads
      rw [check_drop reads]
      rfl
  | ok datagram =>
      have sound := Ipv6Datagram.sound read
      rw [read] at reads
      rw [check_ok reads]
      dsimp only
      split
      next =>
        have processed := run_processTooBig log surroundings.now datagram.payload fit
        cases reported : Icmp.readPacketTooBig datagram.payload with
        | error error =>
            rw [reported] at processed
            exact run_bind_error processed
        | ok report =>
            rw [reported] at processed
            rw [run_bind_ok processed, run_pure]
            exact (outcomeEnding_silent _ [] log).symm
      next =>
        rw [run_look]
        dsimp only
        cases chosen : translator.table.classify datagram.fields.source
            datagram.fields.destination with
        | none => rfl
        | some way =>
            cases way with
            | sixToFour => exact run_sendSixToFour log surroundings packet fit floored sound chosen
            | sixToSix =>
                refine (run_sendSixToSix log surroundings read).trans ?_
                cases SixToSix.packet translator.table datagram <;> rfl

/-! ## A packet -/

/-- How a program ends that comes to the end of a step. -/
def stepEnding (step : Translator.Step) (log : List LogLine) :
    EStateM.Result Halt Progress (List OutboundPacket) :=
  match step.result with
  | .ok packets => .ok packets ⟨step.translator, log ++ step.log⟩
  | .error reason => .error (.drop reason) ⟨step.translator, log ++ step.log⟩

/-- No step ends in a fault. -/
theorem stepEnding_ne_fault (step : Translator.Step) (log : List LogLine) (after : Progress) :
    stepEnding step log ≠ .error .fault after := by
  unfold stepEnding
  split <;> exact nofun

/-- Making a plan and carrying it out is a step. -/
theorem planEnding_ofPacket (translator : Translator) (surroundings : Surroundings)
    (family : Family) (packet : Bytes) (log : List LogLine) :
    planEnding translator surroundings log (Plan.ofPacket translator.table family packet) =
      stepEnding (translator.step surroundings family packet) log := by
  unfold Translator.step
  split
  next reason dropped => rw [dropped, planEnding, stepEnding, List.append_nil]
  next plan planned =>
    rw [planned]
    rfl

/-- **A packet is treated as the translator's step says**, and so without a fault. -/
theorem run_treat (log : List LogLine) (surroundings : Surroundings) (family : Family)
    (packet : Bytes) (fit : translator.CountersFit) (floored : translator.pathMtu.Floored) :
    (treat surroundings family packet).run ⟨translator, log⟩ =
      stepEnding (translator.step surroundings family packet) log := by
  rw [← planEnding_ofPacket]
  cases family with
  | inet => exact run_sendFourToSix log surroundings packet fit
  | inet6 => exact run_receiveIpv6 log surroundings packet fit floored

end Procedure

namespace Translator

/-- The program for a packet does what the step of the translator says. -/
structure Performs (translator : Translator) (surroundings : Surroundings) (family : Family)
    (packet : Bytes) : Prop where
  /-- It comes to the same end. -/
  ends : ∀ log, (Procedure.treat surroundings family packet).run ⟨translator, log⟩ =
    Procedure.stepEnding (translator.step surroundings family packet) log
  /-- It stops at no position that is not there and at no number that is too large. -/
  faultless : ∀ log after,
    (Procedure.treat surroundings family packet).run ⟨translator, log⟩ ≠ .error .fault after

theorem performs {translator : Translator} (fit : translator.CountersFit)
    (floored : translator.pathMtu.Floored) (surroundings : Surroundings) (family : Family)
    (packet : Bytes) : translator.Performs surroundings family packet where
  ends log := Procedure.run_treat log surroundings family packet fit floored
  faultless log after := by
    rw [Procedure.run_treat log surroundings family packet fit floored]
    exact Procedure.stepEnding_ne_fault _ log after

end Translator

end FamilyGateway
