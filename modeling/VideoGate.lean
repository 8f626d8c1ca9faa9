import VideoGate.Command.Run
import VideoGate.Frame.Sample
import VideoGate.Main
import VideoGate.Poll.Feed
import VideoGate.Program.Dispatcher
import VideoGate.Proofs.Video.History
import VideoGate.Proofs.Video.Isolation
import VideoGate.Proofs.Video.Stream
import VideoGate.Proofs.Video.Verdict
import VideoGate.Table.Dispatch
import VideoGate.Table.Video
import VideoGate.Proofs.Dispatch.Simulation
import VideoGate.Proofs.Dispatch.Exit
import VideoGate.Proofs.Dispatch.Protocol
import VideoGate.Proofs.Frame.Window
import VideoGate.Proofs.Program.Host
import VideoGate.Proofs.Program.Refinement
import VideoGate.Proofs.Video.Booking
import VideoGate.Proofs.Video.Accounts
import VideoGate.Proofs.Camera.Table
import VideoGate.Proofs.Dispatch.Slot
import VideoGate.Proofs.Video.Tracking
import VideoGate.Proofs.Gate.Tally
import VideoGate.Proofs.Gate.Agreement
import VideoGate.Proofs.Stats.Report
import VideoGate.Proofs.Control.PacketPath
import VideoGate.Proofs.Control.Switchover
import VideoGate.Proofs.Control.Apply
import VideoGate.Proofs.Robot.Paths
import VideoGate.Proofs.Counter.Interleaving
import VideoGate.Proofs.Video.Order
import VideoGate.Proofs.Frame.Prefix
import VideoGate.Proofs.Video.Cut
import VideoGate.Proofs.Video.Bystander
import VideoGate.Proofs.Stats.DropShare
import VideoGate.Proofs.Video.Window
import VideoGate.Proofs.Camera.Ingestion
import VideoGate.Proofs.Stats.CameraSummary
import VideoGate.Proofs.Stats.Recording
import VideoGate.Proofs.Stats.Intervals
import VideoGate.Proofs.Stats.Overflow
import VideoGate.Proofs.Stats.Peak
import VideoGate.Proofs.Text.Numeral
import VideoGate.Proofs.Json.Quoted
import VideoGate.Proofs.Json.Number
import VideoGate.Proofs.Json.Taking
import VideoGate.Proofs.Json.Layout
import VideoGate.Proofs.Export.RoundTrip
import VideoGate.Proofs.Frame.Sample
import VideoGate.Proofs.Robot.Rounds
import VideoGate.Proofs.Export.Words
import VideoGate.Proofs.Export.Exposition
import VideoGate.Proofs.Export.LineProtocol
import VideoGate.Proofs.Export.TextFormats
import VideoGate.Proofs.Json.Literal
import VideoGate.Proofs.Json.Numeral
import VideoGate.Proofs.Json.Scalar
import VideoGate.Proofs.Json.Members
import VideoGate.Proofs.Json.AnyOrder
import VideoGate.Proofs.Control.StatusText
import VideoGate.Proofs.Poll.Failures
import VideoGate.Proofs.Poll.Interleaving
import VideoGate.Proofs.Stats.Latest
import VideoGate.Proofs.Text.ByteOrder
import VideoGate.Proofs.System.Entries
import VideoGate.Proofs.System.Clearing
import VideoGate.Proofs.Command.Reading
import VideoGate.Proofs.Command.Rejection
import VideoGate.Proofs.Text.Spelling
import VideoGate.Proofs.Control.Interfaces
import VideoGate.Proofs.Wire.Fields
import VideoGate.Proofs.Program.Load
