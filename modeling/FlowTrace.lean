import FlowTrace.Address
import FlowTrace.Address.Text
import FlowTrace.Bytes
import FlowTrace.Calendar
import FlowTrace.Checksum
import FlowTrace.CommandLine.Arguments
import FlowTrace.CommandLine.Reading
import FlowTrace.Config
import FlowTrace.Config.Json
import FlowTrace.Correlator
import FlowTrace.Decimal.Binary64
import FlowTrace.Decimal.Shortest
import FlowTrace.Decimal.Text
import FlowTrace.Flow
import FlowTrace.Hop.Json
import FlowTrace.Hop.Record
import FlowTrace.Hop.Rtt
import FlowTrace.Hop.Table
import FlowTrace.Json.Number
import FlowTrace.Json.Reader
import FlowTrace.Json.Value
import FlowTrace.Label
import FlowTrace.Label.Lookup
import FlowTrace.Main
import FlowTrace.Outstanding
import FlowTrace.Outstanding.Json
import FlowTrace.Packet.Extension
import FlowTrace.Packet.Layout
import FlowTrace.Probe
import FlowTrace.Program
import FlowTrace.Report
import FlowTrace.Response
import FlowTrace.Session.Error
import FlowTrace.Session.Json
import FlowTrace.Session.Listener
import FlowTrace.Session.Listening
import FlowTrace.Session.Networks
import FlowTrace.Session.Rehearsal
import FlowTrace.Session.Scheduler
import FlowTrace.Session.Setup
import FlowTrace.Session.Start
import FlowTrace.Session.World
import FlowTrace.Socket
import FlowTrace.Target
import FlowTrace.Text.Blank
import FlowTrace.Text.Sink
import FlowTrace.Time
import FlowTrace.Transport
import FlowTrace.Proofs.Flow
import FlowTrace.Proofs.Outstanding
import FlowTrace.Proofs.Outstanding.Account
import FlowTrace.Proofs.Reply
import FlowTrace.Proofs.Checksum
import FlowTrace.Proofs.Correlator
import FlowTrace.Proofs.HopTable
import FlowTrace.Proofs.Session.Tasks
import FlowTrace.Proofs.Session.Effect
import FlowTrace.Proofs.Session.Scheduler
import FlowTrace.Proofs.Session.Round
import FlowTrace.Proofs.Session.Invariant
import FlowTrace.Proofs.Session.History
import FlowTrace.Proofs.Session.Attribution
import FlowTrace.Proofs.Session.Completion
import FlowTrace.Proofs.Session.Termination
import FlowTrace.Proofs.Session.Pacing
import FlowTrace.Proofs.Session.Accounting
import FlowTrace.Proofs.Bytes
import FlowTrace.Proofs.Packet.Header
import FlowTrace.Proofs.Packet.Extension
import FlowTrace.Proofs.Packet.Sealed
import FlowTrace.Proofs.Probe
import FlowTrace.Proofs.Response.Error
import FlowTrace.Proofs.Response.Direct
import FlowTrace.Proofs.Correlator.Translation
import FlowTrace.Proofs.Correlator.Renumbering
import FlowTrace.Proofs.Correlator.Collision
import FlowTrace.Proofs.Session.Foreign
import FlowTrace.Proofs.HopTable.Flat
import FlowTrace.Proofs.HopTable.Tally
import FlowTrace.Proofs.HopRecord
import FlowTrace.Proofs.HopTable.Order
import FlowTrace.Proofs.HopTable.Progress
import FlowTrace.Proofs.Response.Labels
import FlowTrace.Proofs.Returns
import FlowTrace.Proofs.Packet.Objects
import FlowTrace.Proofs.Response.Plain
import FlowTrace.Proofs.Response.Shape
import FlowTrace.Proofs.Correlator.Resolution
import FlowTrace.Proofs.Session.Sending
import FlowTrace.Proofs.Session.Hearing
import FlowTrace.Proofs.Session.Itinerary
import FlowTrace.Proofs.Session.Tour
import FlowTrace.Proofs.Probe.Path
import FlowTrace.Proofs.Socket
import FlowTrace.Proofs.Transport
import FlowTrace.Proofs.Response.Length
import FlowTrace.Proofs.Session.Truncation
import FlowTrace.Proofs.Label.Cache
import FlowTrace.Proofs.Label.Controls
import FlowTrace.Proofs.Label.Worker
import FlowTrace.Proofs.Arguments
import FlowTrace.Proofs.Config
import FlowTrace.Proofs.Flow.Identity
import FlowTrace.Proofs.Checksum.Rewriting
