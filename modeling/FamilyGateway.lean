import FamilyGateway.Address.Text
import FamilyGateway.Checksum
import FamilyGateway.CommandLine.Report
import FamilyGateway.Config.Directive
import FamilyGateway.Gateway
import FamilyGateway.Icmp.Echo
import FamilyGateway.Icmp.Feedback
import FamilyGateway.Icmp.Notice
import FamilyGateway.Main
import FamilyGateway.Mapping.Load
import FamilyGateway.Mapping.Routes
import FamilyGateway.Packet.FragmentHeader
import FamilyGateway.PathMtu
import FamilyGateway.RateLimit
import FamilyGateway.Routing.CommandRouter
import FamilyGateway.Text.Hex
import FamilyGateway.Text.Quoted
import FamilyGateway.Translator.Basic
import FamilyGateway.Tun.Device
import FamilyGateway.Proofs.Address.ReadingBack
import FamilyGateway.Proofs.Checksum.Carries
import FamilyGateway.Proofs.Checksum.Residue
import FamilyGateway.Proofs.Checksum.Segment
import FamilyGateway.Proofs.Checksum.Serialized
import FamilyGateway.Proofs.Checksum.Verification
import FamilyGateway.Proofs.Config.Composition
import FamilyGateway.Proofs.Gateway.InstalledRoutes
import FamilyGateway.Proofs.Gateway.Interpretation
import FamilyGateway.Proofs.Gateway.ReferenceLoop
import FamilyGateway.Proofs.Gateway.Refusals
import FamilyGateway.Proofs.Gateway.Restart
import FamilyGateway.Proofs.Gateway.Turns
import FamilyGateway.Proofs.Icmp.Advertisement
import FamilyGateway.Proofs.Icmp.Crossing
import FamilyGateway.Proofs.Icmp.RoundTrip
import FamilyGateway.Proofs.Mapping.Consistency
import FamilyGateway.Proofs.Mapping.Indexed
import FamilyGateway.Proofs.Mapping.Inlining
import FamilyGateway.Proofs.Mapping.Lines
import FamilyGateway.Proofs.Mapping.Listing
import FamilyGateway.Proofs.Mapping.Pairs
import FamilyGateway.Proofs.Mapping.Replies
import FamilyGateway.Proofs.Packet.Covering
import FamilyGateway.Proofs.Packet.Declared
import FamilyGateway.Proofs.Packet.FragmentCodec
import FamilyGateway.Proofs.Packet.HeaderChecksum
import FamilyGateway.Proofs.Packet.Layout
import FamilyGateway.Proofs.Packet.Reading
import FamilyGateway.Proofs.Packet.View
import FamilyGateway.Proofs.Packet.WellFormed
import FamilyGateway.Proofs.PathMtu.Floor
import FamilyGateway.Proofs.PathMtu.Recency
import FamilyGateway.Proofs.PathMtu.Retention
import FamilyGateway.Proofs.RateLimit.Windows
import FamilyGateway.Proofs.Routing.Calls
import FamilyGateway.Proofs.Routing.Executions
import FamilyGateway.Proofs.Routing.Undoing
import FamilyGateway.Proofs.Rows
import FamilyGateway.Proofs.Text.Layout
import FamilyGateway.Proofs.Text.Numerals
import FamilyGateway.Proofs.Translator.Acceptance
import FamilyGateway.Proofs.Translator.CarriedHeaders
import FamilyGateway.Proofs.Translator.Conversion
import FamilyGateway.Proofs.Translator.Crossings
import FamilyGateway.Proofs.Translator.DatagramLimit
import FamilyGateway.Proofs.Translator.Discovery
import FamilyGateway.Proofs.Translator.EchoValidity
import FamilyGateway.Proofs.Translator.Emission
import FamilyGateway.Proofs.Translator.Encounters
import FamilyGateway.Proofs.Translator.Fragments
import FamilyGateway.Proofs.Translator.Frame
import FamilyGateway.Proofs.Translator.NoticeFeedback
import FamilyGateway.Proofs.Translator.NoticeIndependence
import FamilyGateway.Proofs.Translator.NoticeRate
import FamilyGateway.Proofs.Translator.Notices
import FamilyGateway.Proofs.Translator.Passage
import FamilyGateway.Proofs.Translator.PathLimit
import FamilyGateway.Proofs.Translator.Plans
import FamilyGateway.Proofs.Translator.Reachable
import FamilyGateway.Proofs.Translator.Splitting
import FamilyGateway.Proofs.Translator.TrailingBytes
import FamilyGateway.Proofs.Translator.TransportChecksum
import FamilyGateway.Proofs.Translator.UdpChecksum
import FamilyGateway.Proofs.Translator.Ways
import FamilyGateway.Proofs.Translator.WithinIpv6
import FamilyGateway.Proofs.Treatment.Arrival
import FamilyGateway.Proofs.Treatment.Atomicity
import FamilyGateway.Proofs.Treatment.Checked
import FamilyGateway.Proofs.Treatment.Departure
import FamilyGateway.Proofs.Treatment.Effects
import FamilyGateway.Proofs.Treatment.Payload
import FamilyGateway.Proofs.Treatment.Program
import FamilyGateway.Proofs.Tun.Delivery
