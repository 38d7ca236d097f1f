import NetworkTools.Library.InputStream
import NetworkTools.Library.TimedScan
import NetworkTools.Library.StreamScan
import NetworkTools.Library.Stretch
import NetworkTools.Library.Crediting
import NetworkTools.Library.Struct
import NetworkTools.Library.BitLayout
import NetworkTools.Library.WordSum
import NetworkTools.Library.OnesComplement
import NetworkTools.Library.Deadline
import NetworkTools.Library.Exchange
import NetworkTools.Library.BreakLoop
import NetworkTools.Library.Procedure
import NetworkTools.Library.Broadcast
import NetworkTools.Library.Observer
import NetworkTools.Library.Words
import NetworkTools.Library.Statistics
import NetworkTools.Library.Dictionary
import NetworkTools.Construction.IcmpHeader
import NetworkTools.Construction.IpHeader
import NetworkTools.Construction.Pinger
import NetworkTools.Construction.NetworkUtils
import NetworkTools.Construction.Format
import NetworkTools.Construction.IcmpPackage
import NetworkTools.Construction.IcmpClient
import NetworkTools.Construction.IcmpManager
import NetworkTools.Construction.NetworkDiagnostics
import NetworkTools.Construction.Whois
import NetworkTools.Construction.Commands
import NetworkTools.Specification.Answer
import NetworkTools.Specification.Reception
import NetworkTools.Specification.Rounds
import NetworkTools.Specification.Message
import NetworkTools.Specification.Package
import NetworkTools.Specification.Packet
import NetworkTools.Specification.Elicitation
import NetworkTools.Specification.Trace
import NetworkTools.Specification.Exchange
import NetworkTools.Specification.Views
import NetworkTools.Specification.Slicing
import NetworkTools.Specification.Sequence
import NetworkTools.Specification.Delivery
import NetworkTools.Specification.Numbering
import NetworkTools.Specification.Summary
import NetworkTools.Specification.Manager
import NetworkTools.Specification.Diagnostics
import NetworkTools.Specification.Usage
import NetworkTools.Specification.Route
import NetworkTools.Specification.Command
import NetworkTools.Specification.Options
import NetworkTools.Specification.Transcript
import NetworkTools.Proof.Receive.Extraction
import NetworkTools.Proof.Receive.Verdict
import NetworkTools.Proof.Receive.ForeignTraffic
import NetworkTools.Proof.Receive.Elapsed
import NetworkTools.Proof.Receive.RoundTrip
import NetworkTools.Proof.Receive.Completeness
import NetworkTools.Proof.Receive.Deadline
import NetworkTools.Proof.Receive.Consumption
import NetworkTools.Proof.Run.Loop
import NetworkTools.Proof.Run.Transcript
import NetworkTools.Proof.Run.Attribution
import NetworkTools.Proof.Run.Report
import NetworkTools.Proof.Run.Trace
import NetworkTools.Proof.Checksum.Agreement
import NetworkTools.Proof.Package.Checksum
import NetworkTools.Proof.Package.Corruption
import NetworkTools.Proof.Package.Codec
import NetworkTools.Proof.Package.Receiver
import NetworkTools.Proof.Packet.Fields
import NetworkTools.Proof.Packet.Ipv4
import NetworkTools.Proof.Packet.Ipv6
import NetworkTools.Proof.Packet.Icmp
import NetworkTools.Proof.Trace.Shape
import NetworkTools.Proof.Trace.GiveUp
import NetworkTools.Proof.Trace.Destination
import NetworkTools.Proof.Trace.Path
import NetworkTools.Proof.Trace.Manager
import NetworkTools.Proof.Command.Ending
import NetworkTools.Proof.Command.Families
import NetworkTools.Proof.Command.Options
import NetworkTools.Proof.Command.Transcript
import NetworkTools.Proof.Command.Exchanges
import NetworkTools.Proof.Client.Steps
import NetworkTools.Proof.Client.Attribution
import NetworkTools.Proof.Client.Slicing
import NetworkTools.Proof.Client.Sequence
import NetworkTools.Proof.Client.Interleaving
import NetworkTools.Proof.Client.Delivery
import NetworkTools.Proof.Client.Numbering
import NetworkTools.Proof.Client.Lockstep
import NetworkTools.Proof.Client.Usage
import NetworkTools.Proof.Trace.Clients
import NetworkTools.Proof.Trace.Route
import NetworkTools.Proof.Trace.Naming
import NetworkTools.Proof.Statistics.Summary
import NetworkTools.Proof.Statistics.Manager
import NetworkTools.Proof.Statistics.Clients
import NetworkTools.Proof.Diagnostics.Batch
import NetworkTools.Proof.Diagnostics.Clients
import NetworkTools.Proof.Diagnostics.Readers
import NetworkTools.Proof.Run.Requests
