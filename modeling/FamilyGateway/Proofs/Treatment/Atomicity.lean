import FamilyGateway.Proofs.Translator.Frame
import FamilyGateway.Proofs.Treatment.Program

/-!
# What the program for a packet leaves behind

The program that treats a packet changes the translator while there are tests to come, and a test
that fails leaves behind what was changed before it. For a step of the translator the question
does not arise, since it has a plan before it changes anything. The program comes to the
same end (`Translator.performs`), so it never stops between a change and a test that fails. A
packet that it drops has changed nothing, and one that it accepts has changed only what it is
about (`Translator.step_framed`).
-/

set_option autoImplicit false

namespace FamilyGateway

/-- The counters of the small gateway have hardly counted anything. -/
theorem Sample.countersFit : translator.CountersFit where
  needFrag := by decide
  tooBig := by decide
  reports := by
    rw [translator, PathMtu.Cache.nextStamp_record]
    decide

namespace Translator

variable {translator : Translator} {surroundings : Surroundings} {family : Family}
  {packet : Bytes}

/-- A program that stops has changed nothing if its packet changes nothing when it is dropped. -/
theorem Performs.unchanged (performs : translator.Performs surroundings family packet)
    (framed : translator.Framed family packet
      (translator.step surroundings family packet).translator
      (translator.step surroundings family packet).result)
    {log : List LogLine} {halt : Halt} {after : Progress}
    (stops : (Procedure.treat surroundings family packet).run ⟨translator, log⟩ =
      .error halt after) :
    after.translator = translator := by
  rw [performs.ends, Procedure.stepEnding] at stops
  split at stops
  next => cases stops
  next reason dropped =>
    cases stops
    exact framed.dropped reason dropped

/-- What the treatment of a packet leaves behind, as a step and as a program. -/
structure Frames (translator : Translator) (surroundings : Surroundings) (family : Family)
    (packet : Bytes) : Prop where
  /-- What the step leaves behind. -/
  framed : translator.Framed family packet (translator.step surroundings family packet).translator
    (translator.step surroundings family packet).result
  /-- The program leaves the same behind. -/
  performs : translator.CountersFit → translator.Performs surroundings family packet
  /-- Wherever the program stops, it has changed nothing. -/
  unchanged : translator.CountersFit → ∀ log halt after,
    (Procedure.treat surroundings family packet).run ⟨translator, log⟩ = .error halt after →
      after.translator = translator

/-- **A packet that is dropped by the program has changed nothing, and one that is accepted only
what it is about.** -/
theorem step_framed (reached : translator.Reachable) (surroundings : Surroundings)
    (family : Family) (packet : Bytes) : translator.Frames surroundings family packet where
  framed := framed_step reached surroundings family packet
  performs fit := performs fit reached.floored surroundings family packet
  unchanged fit _ _ _ stops :=
    (performs fit reached.floored surroundings family packet).unchanged
      (framed_step reached surroundings family packet) stops

theorem step_framed_counted :
    Sample.translator.Reachable ∧ Sample.translator.CountersFit ∧ ∃ step packets,
      Sample.translator.step Sample.answering .inet6 (Sample.wholePacket (List.replicate 56 0)) =
        step ∧
      step.translator.tooBigLimiter ≠ Sample.translator.tooBigLimiter ∧
      step.translator.table = Sample.translator.table ∧ step.result = .ok packets ∧
      Splits Sample.translator.table .inet6 (Sample.wholePacket (List.replicate 56 0)) packets
        .sixToFour ∧
      (Procedure.treat Sample.answering .inet6 (Sample.wholePacket (List.replicate 56 0))).run
        ⟨Sample.translator, []⟩ = .ok packets ⟨step.translator, step.log⟩ := by
  obtain ⟨view, packets, read, plain, length, accepted, forwards⟩ := Sample.forwards_wholePacket
  obtain ⟨way, after, notices, carried, _, thresholds⟩ :=
    exists_thresholds Sample.reachable read accepted fun _ => forwards.ne_nil
  obtain ⟨rfl, rfl⟩ := forwards.leads.unique thresholds.leads
  have towards : Endpoints.destination ⟨.v4 Sample.host.ipv4, .v4 Sample.remote⟩ =
      .v4 Sample.remote := rfl
  have cuts := thresholds.toIpv4 rfl
  rw [towards, Sample.lookup_remote] at cuts
  have long : (68 : UInt16).toNat + 20 + (if view.identification.isSome then 8 else 0) <
      view.totalLength := by
    rw [PacketView.totalLength_inet6 thresholds.leads.origin.1, plain, length]
    decide
  have changed : (Sample.translator.step Sample.answering .inet6
      (Sample.wholePacket (List.replicate 56 0))).translator.tooBigLimiter ≠
        Sample.translator.tooBigLimiter := by
    rw [(cuts.announced long).1]
    decide
  have frames := step_framed Sample.reachable Sample.answering .inet6
    (Sample.wholePacket (List.replicate 56 0))
  obtain ⟨sent, result, splits⟩ := frames.framed.tooBig changed
  have performed := (frames.performs Sample.countersFit).ends []
  rw [Procedure.stepEnding, result] at performed
  exact ⟨Sample.reachable, Sample.countersFit, _, sent, rfl, changed, frames.framed.table, result,
    splits, performed⟩

end Translator

end FamilyGateway
