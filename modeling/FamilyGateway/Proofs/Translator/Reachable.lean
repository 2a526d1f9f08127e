import FamilyGateway.Proofs.PathMtu.Floor
import FamilyGateway.Proofs.Translator.Passage
import FamilyGateway.Proofs.Translator.Plans

/-!
# What a translator can become

A translator begins with an empty cache and windows of some length. After that it treats packets
at any times, is told path MTUs, and is given other tables, in any order and any number of times
(`Translator.Reachable`).

A packet touches the path MTU cache in one way only, by recording a report
(`Translator.pathMtu_step`), so whatever happened, the path MTU towards a destination is
never below the floor of its family (`Translator.Reachable.floor_le_lookup`).
-/

set_option autoImplicit false

namespace FamilyGateway

namespace Translator

/-- The translators that any course of events leads to. -/
inductive Reachable : Translator → Prop where
  | opening (maxEntries lifetime window noticesPerWindow : Nat) :
      Reachable (.opening (.empty maxEntries lifetime) window noticesPerWindow)
  | step {translator : Translator} (reached : Reachable translator)
      (surroundings : Surroundings) (family : Family) (packet : Bytes) :
      Reachable (translator.step surroundings family packet).translator
  | feedback {translator : Translator} (reached : Reachable translator) (destination : Address)
      (mtu : UInt16) (now : Instant) :
      Reachable { translator with pathMtu := translator.pathMtu.record destination mtu now }
  | reload {translator : Translator} (reached : Reachable translator) (table : MappingTable) :
      Reachable { translator with table := table }

/-- Treating a packet leaves the cache as it is or enters a report. -/
theorem pathMtu_step (translator : Translator) (surroundings : Surroundings) (family : Family)
    (packet : Bytes) :
    (translator.step surroundings family packet).translator.pathMtu = translator.pathMtu ∨
      ∃ report : Icmp.Report,
        (translator.step surroundings family packet).translator.pathMtu =
          report.enter translator.pathMtu surroundings.now := by
  rcases translator.step_cases surroundings family packet with
    ⟨_, _, same⟩ | ⟨plan, _, _, changes⟩
  · rw [same]
    exact .inl rfl
  · generalize (translator.step surroundings family packet).translator = next at changes ⊢
    cases changes with
    | nothing => exact .inl rfl
    | report report => exact .inr ⟨report, rfl⟩
    | toIpv6 sender declared split => exact .inl rfl
    | toIpv4 sender arrived split => exact .inl rfl

namespace Reachable

variable {translator : Translator}

/-- With windows of one second a translator begins as with windows of any length. -/
theorem fresh (maxEntries lifetime noticesPerWindow : Nat) :
    (Translator.fresh (.empty maxEntries lifetime) noticesPerWindow).Reachable :=
  .opening maxEntries lifetime RateLimit.window noticesPerWindow

/-- The floors hold in every cache that is reached. -/
theorem floored (reached : translator.Reachable) : translator.pathMtu.Floored := by
  induction reached with
  | opening maxEntries lifetime window noticesPerWindow => exact .empty maxEntries lifetime
  | step reached surroundings family packet ih =>
      rcases pathMtu_step _ surroundings family packet with same | ⟨report, entered⟩
      · rw [same]
        exact ih
      · rw [entered]
        exact ih.record report.destination report.mtu surroundings.now
  | feedback reached destination mtu now ih => exact ih.record destination mtu now
  | reload reached table ih => exact ih

/-- The path MTU towards a destination is never below the floor of its family. -/
theorem floor_le_lookup (reached : translator.Reachable) (destination : Address) :
    (PathMtu.floor destination.family).toNat ≤
      (translator.pathMtu.lookup destination).toNat :=
  reached.floored.floor_le_lookup destination

end Reachable

end Translator

namespace Sample

/-- The translator of the small gateway is reached by one report and a table. -/
theorem reachable : translator.Reachable :=
  .reload (.feedback (.fresh PathMtu.defaultMaxEntries PathMtu.defaultLifetime 10)
    (.v4 remote) 68 0) ⟨[host], [peer], some network⟩

/-- The MTU that it has learnt. -/
theorem lookup_remote : translator.pathMtu.lookup (.v4 remote) = 68 :=
  PathMtu.Cache.lookup_record (by decide) (.v4 remote) 68 0

/-- It has learnt nothing about the path to the host over IPv6. -/
theorem lookup_host : translator.pathMtu.lookup (.v6 host.ipv6) = 1500 := by
  rw [translator, PathMtu.Cache.lookup_record_of_ne (by decide) (by decide),
    PathMtu.Cache.lookup, PathMtu.Cache.standard, PathMtu.Cache.empty, Std.HashMap.getElem?_empty]
  rfl

/-- Surroundings in which every notice has an address to be sent from. -/
def answering : Surroundings where
  now := 0
  sourceFor
    | .v4 _ => .ok (.v4 ⟨203, 0, 113, 1⟩)
    | .v6 _ => .ok (.v6 ⟨⟨0x2001, 0xdb8, 0xffff, 0, 0, 0⟩, ⟨0, 0, 0, 1⟩⟩)
  drawn := 0

/-- A packet without a Fragment header on its way to IPv4, with this payload. -/
def wholePacket (payload : Bytes) : Bytes :=
  Ipv6Header.emit ⟨host.ipv6, .embed network remote, 17, 64⟩ payload.length ++ payload

/-- Such a packet is forwarded by every translator with that table. -/
theorem forwards_wholePacket_of {current : Translator} (same : current.table = translator.table) :
    ∃ view packets,
      PacketView.read? .inet6 (wholePacket (List.replicate 56 0)) = some view ∧
        view.identification = none ∧ view.payload.length = 56 ∧
        (current.step answering .inet6 (wholePacket (List.replicate 56 0))).result =
          .ok packets ∧
        current.Forwards answering view .sixToFour ⟨.v4 host.ipv4, .v4 remote⟩
          (List.replicate 56 0) packets := by
  obtain ⟨view, read, identification, length, leads, converted, segment, first⟩ : ∃ view,
      PacketView.read? .inet6 (wholePacket (List.replicate 56 0)) = some view ∧
        view.identification = none ∧ view.payload.length = 56 ∧
        translator.table.Leads .sixToFour view.endpoints ⟨.v4 host.ipv4, .v4 remote⟩ ∧
        view.convert .sixToFour ⟨.v4 host.ipv4, .v4 remote⟩ = .ok (List.replicate 56 0) ∧
        view.protocol = .udp ∧ view.offset = 0 :=
    ⟨_, rfl, rfl, rfl, .sixToFour (by decide) rfl, rfl, rfl, rfl⟩
  rw [← same] at leads
  obtain ⟨packets, accepted, forwards⟩ := Translator.forwards_of_leads read
    (by rw [segment]; exact UpperProtocol.noConfusion) (by rw [first, length]; decide)
    leads converted
  exact ⟨view, packets, read, identification, length, accepted, forwards⟩

/-- Such a packet is forwarded. -/
theorem forwards_wholePacket : ∃ view packets,
    PacketView.read? .inet6 (wholePacket (List.replicate 56 0)) = some view ∧
      view.identification = none ∧ view.payload.length = 56 ∧
      (translator.step answering .inet6 (wholePacket (List.replicate 56 0))).result =
        .ok packets ∧
      translator.Forwards answering view .sixToFour ⟨.v4 host.ipv4, .v4 remote⟩
        (List.replicate 56 0) packets :=
  forwards_wholePacket_of rfl

end Sample

end FamilyGateway
