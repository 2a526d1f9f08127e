import FamilyGateway.Proofs.Treatment.Arrival
import FamilyGateway.Proofs.Treatment.Departure
import FamilyGateway.Translator.Basic

/-!
# Steps that change the translator

A packet is treated by a program that reads and changes the translator as it goes, logs lines, and
may stop at any step, with everything that it changed until then (`Procedure`). This module has
the steps that change something: a reported path MTU is entered into the cache, which may have to
forget others, and a limiter is asked for a notice. What they change is what the functions of the
cache and of the limiters say.

A report is numbered with sixty-four bits, and grants are counted with thirty-two up to a limit of
the same width. The numbers are used up once 2⁶⁴ − 1 reports have come, and the count stays below
its limit (`Translator.CountersFit`).
-/

set_option autoImplicit false

namespace FamilyGateway

/-- What a treatment works on: the translator, and what is logged. -/
structure Progress where
  translator : Translator
  log : List LogLine

/-- A program that treats a packet. -/
abbrev Procedure : Type → Type := EStateM Halt Progress

/-- The counters of a translator have room for one more. The limits are numbers of their width
anyway, so this leaves out no translator but one that has used up all numbers for reports. -/
structure Translator.CountersFit (translator : Translator) : Prop where
  needFrag : translator.needFragLimiter.limit < UInt32.size
  tooBig : translator.tooBigLimiter.limit < UInt32.size
  reports : translator.pathMtu.nextStamp + 1 < UInt64.size

namespace Procedure

variable {α β : Type}

/-! ## Single steps -/

/-- Drops the packet. -/
def drop (reason : DropReason) : Procedure α := throw (.drop reason)

/-- Does something that does not depend on the translator. -/
def check : Checked α → Procedure α
  | .ok value => pure value
  | .error halt => throw halt

instance : MonadLift (Except Halt) Procedure := ⟨check⟩

/-- Looks at a part of the translator. -/
def look (part : Translator → α) : Procedure α := do
  return part (← get).translator

/-- Changes the translator. -/
def change (update : Translator → Translator) : Procedure Unit :=
  modify fun progress => { progress with translator := update progress.translator }

/-- Logs a line. -/
def warn (line : LogLine) : Procedure Unit :=
  modify fun progress => { progress with log := progress.log ++ [line] }

variable {computation : Checked α} {first : Procedure α} {next : α → Procedure β}
  {before after : Progress}

theorem run_pure (value : α) : (pure value : Procedure α).run before = .ok value before := rfl

theorem run_bind_ok {value : α} (ends : first.run before = .ok value after) :
    (first >>= next).run before = (next value).run after := by
  rw [EStateM.run_bind, ends]

theorem run_bind_error {halt : Halt} (ends : first.run before = .error halt after) :
    (first >>= next).run before = .error halt after := by
  rw [EStateM.run_bind, ends]

theorem run_look (part : Translator → α) :
    (look part >>= next).run before = (next (part before.translator)).run before := rfl

theorem run_change (update : Translator → Translator) {next : Unit → Procedure β} :
    (change update >>= next).run before =
      (next ()).run { before with translator := update before.translator } := rfl

/-- What comes after a computation that has a value. -/
theorem check_ok {value : α} (ends : computation = .ok value) :
    (liftM computation >>= next) = next value := by
  rw [ends]
  rfl

/-- Nothing comes after a computation that drops the packet. -/
theorem check_drop {reason : DropReason} (ends : computation = Checked.drop reason) :
    (liftM computation >>= next) = drop reason := by
  rw [ends]
  rfl

/-! ## Reports -/

/-- Where the entries that are forgotten begin: at the first one that is too old, or at half of the
limit. -/
def evictionCut (cache : PathMtu.Cache) (now : Instant) : Nat :=
  match cache.newestFirst.findIdx? fun entry => cache.lifetime < now - entry.2.updated with
  | some expired => min expired (cache.maxEntries / 2)
  | none => cache.maxEntries / 2

/-- Forgets the entries behind the cut. -/
def evict (now : Instant) : Procedure Unit := do
  let cache ← look Translator.pathMtu
  let cut := evictionCut cache now
  Checked.require (cut ≤ cache.newestFirst.length)
  change fun translator => { translator with
    pathMtu := { cache with entries := Std.HashMap.ofList (cache.newestFirst.take cut) } }

/-- Takes in a report, and makes room if the cache has outgrown its limit. -/
def record (now : Instant) (report : Icmp.Report) : Procedure Unit := do
  let cache ← look Translator.pathMtu
  let next ← Checked.addSize cache.nextStamp 1
  let entry : PathMtu.Entry :=
    ⟨max report.mtu (PathMtu.floor report.destination.family), now, cache.nextStamp⟩
  let grown := { cache with
    entries := cache.entries.insert report.destination entry
    nextStamp := next }
  change fun translator => { translator with pathMtu := grown }
  if grown.maxEntries < grown.entries.size then evict now else pure ()

/-- Up to the cut are the entries that survive. -/
theorem take_evictionCut (cache : PathMtu.Cache) (now : Instant) :
    cache.newestFirst.take (evictionCut cache now) = cache.survivors now := by
  have negated : (fun entry : Address × PathMtu.Entry =>
      !decide (now - entry.2.updated ≤ cache.lifetime)) =
        fun entry => decide (cache.lifetime < now - entry.2.updated) := by
    funext entry
    rw [← decide_not, decide_eq_decide]
    exact Nat.not_le
  rw [PathMtu.Cache.survivors, List.takeWhile_eq_take_findIdx_not, List.take_take, negated,
    evictionCut]
  split
  next expired found =>
    rw [(List.findIdx?_eq_some_iff_findIdx_eq.mp found).2, Nat.min_comm]
  next young =>
    rw [List.findIdx?_eq_none_iff_findIdx_eq.mp young, ← List.take_eq_take_min]

/-- A cache that has outgrown its limit has an entry wherever it may be cut. -/
theorem evictionCut_le {cache : PathMtu.Cache} (now : Instant)
    (full : cache.maxEntries < cache.entries.size) :
    evictionCut cache now ≤ cache.newestFirst.length := by
  have size : cache.newestFirst.length = cache.entries.size := by
    rw [PathMtu.Cache.newestFirst, List.length_mergeSort, Std.HashMap.length_toList]
  unfold evictionCut
  split <;> omega

theorem run_evict {translator : Translator} (log : List LogLine) (now : Instant)
    (full : translator.pathMtu.maxEntries < translator.pathMtu.entries.size) :
    (evict now).run ⟨translator, log⟩ =
      .ok () ⟨{ translator with pathMtu := translator.pathMtu.evict now }, log⟩ := by
  have inside : Checked.require (evictionCut translator.pathMtu now ≤
      translator.pathMtu.newestFirst.length) = .ok () :=
    if_pos (evictionCut_le now full)
  rw [evict, run_look, check_ok inside, take_evictionCut]
  rfl

theorem run_record {translator : Translator} (log : List LogLine) (now : Instant)
    (report : Icmp.Report) (fit : translator.CountersFit) :
    (record now report).run ⟨translator, log⟩ =
      .ok () ⟨{ translator with pathMtu := report.enter translator.pathMtu now }, log⟩ := by
  have next : Checked.addSize translator.pathMtu.nextStamp 1 = .ok _ := if_pos fit.reports
  rw [record, run_look, check_ok next, run_change, Icmp.Report.enter, PathMtu.Cache.record]
  dsimp only
  split
  next full => exact run_evict log now full
  next => rfl

/-! ## Messages for the gateway -/

/-- What is to be done with a message from the IPv4 side. -/
inductive Verdict where
  | forward
  | discard
  deriving DecidableEq

/-- Whether a message from the IPv4 side goes on. A report that it carries is taken in. -/
def processInbound (now : Instant) (message : Bytes) : Procedure Verdict :=
  if message.length < IcmpMessage.headerLength then drop (.icmp (.truncated message.length))
  else do
    let type ← Checked.byteAt message 0
    let code ← Checked.byteAt message 1
    if type = Icmp.echoRequest ∨ type = Icmp.echoReply then pure .forward
    else if type = Icmp.unreachable ∧ code = Icmp.fragmentationNeeded then do
      let reported ← Checked.wordAt message 6
      match ← Checked.ipv4At? message (IcmpMessage.headerLength + 16)
          (IcmpMessage.headerLength + Ipv4Fields.byteLength) with
      | some destination => do
        record now ⟨.v4 destination, max reported (PathMtu.floor .inet)⟩
        pure .discard
      | none => do
        warn (.warn Icmp.unquotedWarning)
        pure .discard
    else pure .discard

/-- Takes in the report of a packet-too-big message. -/
def processTooBig (now : Instant) (message : Bytes) : Procedure Unit :=
  if message.length < IcmpMessage.headerLength then drop (.icmp (.truncated message.length))
  else do
    let type ← Checked.byteAt message 0
    if type = Icmp.packetTooBig then do
      let reported ← Checked.longAt message 4
      let inner ← Checked.part message IcmpMessage.headerLength message.length
      match ← Checked.ipv6At? inner 24 Ipv6Fields.byteLength with
      | some destination => record now ⟨.v6 destination, Icmp.clampIpv6Mtu reported⟩
      | none => drop (.icmp (.truncated message.length))
    else drop (.icmp (.unsupportedV6 type))

/-- How looking at a message from the IPv4 side ends. -/
def inboundEnding (translator : Translator) (log : List LogLine) (now : Instant) :
    Except IcmpError Icmp.Advice → EStateM.Result Halt Progress Verdict
  | .error error => .error (.drop (.icmp error)) ⟨translator, log⟩
  | .ok .forward => .ok .forward ⟨translator, log⟩
  | .ok (.discard none) => .ok .discard ⟨translator, log⟩
  | .ok (.discard (some report)) =>
    .ok .discard ⟨{ translator with pathMtu := report.enter translator.pathMtu now }, log⟩
  | .ok .discardUnquoted => .ok .discard ⟨translator, log ++ [.warn Icmp.unquotedWarning]⟩

/-- How looking at a packet-too-big message ends. -/
def tooBigEnding (translator : Translator) (log : List LogLine) (now : Instant) :
    Except IcmpError Icmp.Report → EStateM.Result Halt Progress Unit
  | .error error => .error (.drop (.icmp error)) ⟨translator, log⟩
  | .ok report =>
    .ok () ⟨{ translator with pathMtu := report.enter translator.pathMtu now }, log⟩

theorem run_processInbound {translator : Translator} (log : List LogLine) (now : Instant)
    (message : Bytes) (fit : translator.CountersFit) :
    (processInbound now message).run ⟨translator, log⟩ =
      inboundEnding translator log now (Icmp.advise message) := by
  unfold processInbound
  split
  next short =>
    rw [Icmp.advise, IcmpMessage.read_of_short short]
    rfl
  next long =>
    obtain ⟨parsed, readable⟩ := IcmpMessage.exists_read_iff.mpr (Nat.le_of_not_lt long)
    obtain rfl := IcmpMessage.eq_encode_of_read readable
    have type : Checked.byteAt parsed.encode 0 = .ok parsed.type := rfl
    have code : Checked.byteAt parsed.encode 1 = .ok parsed.code := rfl
    have reported : Checked.wordAt parsed.encode 6 = .ok (Wire.lower parsed.parameter) :=
      Checked.wordAt_bytes16 (Wire.lower parsed.parameter)
    have quoted : Checked.ipv4At? parsed.encode (IcmpMessage.headerLength + 16)
        (IcmpMessage.headerLength + Ipv4Fields.byteLength) =
          .ok (Icmp.quotedIpv4Destination? parsed.data) :=
      Checked.ipv4At?_eq parsed.encode 24
    rw [check_ok type, check_ok code, Icmp.advise, IcmpMessage.read_encode]
    show _ = inboundEnding translator log now (if _ then _ else _)
    split
    next => rfl
    next =>
      split
      next =>
        rw [check_ok reported, check_ok quoted]
        cases Icmp.quotedIpv4Destination? parsed.data with
        | none => rfl
        | some destination =>
            dsimp only
            rw [run_bind_ok (run_record log now _ fit)]
            rfl
      next => rfl

theorem run_processTooBig {translator : Translator} (log : List LogLine) (now : Instant)
    (message : Bytes) (fit : translator.CountersFit) :
    (processTooBig now message).run ⟨translator, log⟩ =
      tooBigEnding translator log now (Icmp.readPacketTooBig message) := by
  unfold processTooBig
  split
  next short =>
    rw [Icmp.readPacketTooBig, IcmpMessage.read_of_short short]
    rfl
  next long =>
    obtain ⟨parsed, readable⟩ := IcmpMessage.exists_read_iff.mpr (Nat.le_of_not_lt long)
    obtain rfl := IcmpMessage.eq_encode_of_read readable
    have type : Checked.byteAt parsed.encode 0 = .ok parsed.type := rfl
    have reported : Checked.longAt parsed.encode 4 = .ok parsed.parameter :=
      congrArg Except.ok (Wire.long_bytes32 parsed.parameter)
    have inner : Checked.part parsed.encode IcmpMessage.headerLength parsed.encode.length =
        .ok parsed.data :=
      Checked.part_length (Nat.le_of_not_lt long)
    have quoted : Checked.ipv6At? parsed.data 24 Ipv6Fields.byteLength =
        .ok (Icmp.quotedIpv6Destination? parsed.data) :=
      Checked.ipv6At?_eq parsed.data 24
    rw [check_ok type, Icmp.readPacketTooBig, IcmpMessage.read_encode]
    show _ = tooBigEnding translator log now (if _ then _ else _)
    split
    next =>
      rw [check_ok reported, check_ok inner, check_ok quoted]
      cases Icmp.quotedIpv6Destination? parsed.data with
      | none => rfl
      | some destination => exact run_record log now _ fit
    next => rfl

/-! ## Notices -/

/-- Asks a limiter for one notice. -/
def acquire (limiter : RateLimit.Limiter) (now : Instant) : Checked (Bool × RateLimit.Limiter) :=
  let current := limiter.refresh now
  if current.granted < current.limit then do
    let granted ← Checked.addCount current.granted 1
    .ok (true, { current with granted := granted })
  else .ok (false, current)

/-- Tells the sender of an IPv4 packet which size would have fitted, unless the limiter or the
choice of a source address stands against it. -/
def notifyIpv4 (surroundings : Surroundings) (original : Bytes) (sender : Ipv4Address)
    (mtu : UInt16) : Procedure (List OutboundPacket) := do
  let limiter ← look Translator.needFragLimiter
  let answer ← acquire limiter surroundings.now
  change fun translator => { translator with needFragLimiter := answer.2 }
  if answer.1 then
    match surroundings.ipv4Source sender with
    | .ok source => do
      let notice ← Checked.needFragNotice original source sender mtu
      pure [notice]
    | .error line => do
      warn line
      pure []
  else pure []

/-- Tells the sender of an IPv6 packet which size would have fitted, unless the limiter or the
choice of a source address stands against it. -/
def notifyIpv6 (surroundings : Surroundings) (original : Bytes) (sender : Ipv6Address)
    (mtu : UInt32) : Procedure (List OutboundPacket) := do
  let limiter ← look Translator.tooBigLimiter
  let answer ← acquire limiter surroundings.now
  change fun translator => { translator with tooBigLimiter := answer.2 }
  if answer.1 then
    match surroundings.ipv6Source sender with
    | .ok source => do
      let notice ← Checked.tooBigNotice original source sender mtu
      pure [notice]
    | .error line => do
      warn line
      pure []
  else pure []

/-- How a program ends that comes to some outcome. -/
def outcomeEnding (outcome : Translator.Outcome) (log : List LogLine) :
    EStateM.Result Halt Progress (List OutboundPacket) :=
  .ok outcome.packets ⟨outcome.translator, log ++ outcome.log⟩

/-- An outcome about which nothing is logged. -/
theorem outcomeEnding_silent (translator : Translator) (packets : List OutboundPacket)
    (log : List LogLine) :
    outcomeEnding ⟨translator, packets, []⟩ log = .ok packets ⟨translator, log⟩ := by
  rw [outcomeEnding, List.append_nil]

/-- What is granted stays below the limit, and the limit has its width. -/
theorem acquire_eq {limiter : RateLimit.Limiter} (now : Instant)
    (fits : limiter.limit < UInt32.size) : acquire limiter now = .ok (limiter.acquire now) := by
  have limit : (limiter.refresh now).limit = limiter.limit := by
    unfold RateLimit.Limiter.refresh
    split <;> rfl
  unfold acquire RateLimit.Limiter.acquire
  dsimp only
  split
  next below =>
    have counted : Checked.addCount (limiter.refresh now).granted 1 = .ok _ := if_pos (by omega)
    exact Checked.bind_ok counted _
  next => rfl

theorem run_notifyIpv4 {translator : Translator} (log : List LogLine)
    (surroundings : Surroundings) (original : Bytes) (sender : Ipv4Address) (mtu : UInt16)
    (fit : translator.CountersFit) :
    (notifyIpv4 surroundings original sender mtu).run ⟨translator, log⟩ =
      outcomeEnding (translator.notifyIpv4 surroundings original sender mtu) log := by
  have answer := acquire_eq surroundings.now fit.needFrag
  rw [notifyIpv4, run_look, check_ok answer, run_change, Translator.notifyIpv4]
  dsimp only
  split
  next =>
    cases surroundings.ipv4Source sender with
    | ok source =>
        dsimp only
        rw [check_ok (Checked.needFragNotice_eq original source sender mtu), run_pure,
          outcomeEnding_silent]
    | error line => rfl
  next => rw [run_pure, outcomeEnding_silent]

theorem run_notifyIpv6 {translator : Translator} (log : List LogLine)
    (surroundings : Surroundings) (original : Bytes) (sender : Ipv6Address) (mtu : UInt32)
    (fit : translator.CountersFit) :
    (notifyIpv6 surroundings original sender mtu).run ⟨translator, log⟩ =
      outcomeEnding (translator.notifyIpv6 surroundings original sender mtu) log := by
  have answer := acquire_eq surroundings.now fit.tooBig
  rw [notifyIpv6, run_look, check_ok answer, run_change, Translator.notifyIpv6]
  dsimp only
  split
  next =>
    cases surroundings.ipv6Source sender with
    | ok source =>
        dsimp only
        rw [check_ok (Checked.tooBigNotice_eq original source sender mtu), run_pure,
          outcomeEnding_silent]
    | error line => rfl
  next => rw [run_pure, outcomeEnding_silent]

end Procedure

end FamilyGateway
