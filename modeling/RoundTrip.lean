import RoundTrip.Word
import RoundTrip.Fault
import RoundTrip.Frame
import RoundTrip.Payload
import RoundTrip.Tally
import RoundTrip.Clock
import RoundTrip.Responder
import RoundTrip.Text.Blank
import RoundTrip.Text.Numeral
import RoundTrip.Text.Position
import RoundTrip.Text.Printable
import RoundTrip.Text.Quoted
import RoundTrip.Double
import RoundTrip.Double.Shortest
import RoundTrip.Document
import RoundTrip.Document.Fault
import RoundTrip.Document.Number
import RoundTrip.Settings.Level
import RoundTrip.Settings.Basic
import RoundTrip.Settings.Overrides
import RoundTrip.Settings.Form
import RoundTrip.Toml.Line
import RoundTrip.Toml.Quoted
import RoundTrip.Toml.Key
import RoundTrip.Toml.Number
import RoundTrip.Toml.Moment
import RoundTrip.Toml.Tree
import RoundTrip.Toml.Value
import RoundTrip.Toml.Statement
import RoundTrip.Toml.Writer
import RoundTrip.Settings.Stored
import RoundTrip.Measurement
import RoundTrip.Outstanding
import RoundTrip.Ledger
import RoundTrip.Deadlines
import RoundTrip.Initiator
import RoundTrip.Link.Stream
import RoundTrip.Link.Sending
import RoundTrip.Link.Asking
import RoundTrip.Link.Answering
import RoundTrip.Link.Load
import RoundTrip.Link.Pipe
import RoundTrip.Link.Turns
import RoundTrip.Link.Loopback
import RoundTrip.Proofs.Payload
import RoundTrip.Proofs.Document
import RoundTrip.Proofs.Document.Fault
import RoundTrip.Proofs.Deadlines
import RoundTrip.Proofs.Keyed
import RoundTrip.Proofs.Ledger
import RoundTrip.Proofs.Initiator
import RoundTrip.Proofs.Initiator.Settling
import RoundTrip.Proofs.Initiator.History
import RoundTrip.Proofs.Initiator.Counters
import RoundTrip.Proofs.Initiator.Closing
import RoundTrip.Proofs.Frame
import RoundTrip.Proofs.Frame.Feeding
import RoundTrip.Proofs.Frame.Writing
import RoundTrip.Proofs.Frame.Ending
import RoundTrip.Proofs.Link.Stream
import RoundTrip.Proofs.Link.Answering
import RoundTrip.Proofs.Initiator.Balance
import RoundTrip.Proofs.Link.Sending
import RoundTrip.Proofs.Link.Asking
import RoundTrip.Proofs.Link.Peers
import RoundTrip.Proofs.Link.Answering.Serving
import RoundTrip.Proofs.Link.Peers.Active
import RoundTrip.Proofs.Link.Peers.Agreement
import RoundTrip.Proofs.Settings.Fitting
import RoundTrip.Proofs.Text.Numeral
import RoundTrip.Proofs.Link.Asking.Outcome
import RoundTrip.Proofs.Link.Pipe
import RoundTrip.Proofs.Link.Load
import RoundTrip.Proofs.Link.Loopback.Waking
import RoundTrip.Proofs.Link.Loopback.Turns
import RoundTrip.Proofs.Link.Loopback.Bound
import RoundTrip.Proofs.Link.Loopback.Lowering
import RoundTrip.Proofs.Link.Loopback
import RoundTrip.Proofs.Link.Sending.Queue
import RoundTrip.Proofs.Initiator.Reordering
import RoundTrip.Proofs.Outstanding
import RoundTrip.Proofs.Initiator.Crowd
import RoundTrip.Proofs.Initiator.Crowd.Consistent
import RoundTrip.Proofs.Initiator.Crowd.Closing
import RoundTrip.Proofs.Toml.Quoted
import RoundTrip.Proofs.Toml.Value
import RoundTrip.Proofs.Toml.Sections
import RoundTrip.Proofs.Settings.Stored
import RoundTrip.Proofs.Initiator.Dropping
import RoundTrip.Proofs.Deadlines.Tasks
import RoundTrip.Proofs.Deadlines.Contract
import RoundTrip.Proofs.Initiator.Timeline
import RoundTrip.Proofs.Initiator.Punctual
import RoundTrip.Proofs.Settings.Overrides
import RoundTrip.Proofs.Settings.Overrides.Values
import RoundTrip.Proofs.Tally
import RoundTrip.Proofs.Document.Record
import RoundTrip.Proofs.Settings.Form
