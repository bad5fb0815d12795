import Conduit.Catalogue.Element
import Conduit.Catalogue.Stages
import Conduit.Catalogue.Timed
import Conduit.Catalogue.Walk
import Conduit.Config.Basic
import Conduit.Config.Environment
import Conduit.Config.File
import Conduit.Coordinator.Dispatch
import Conduit.Coordinator.Floor
import Conduit.DataType
import Conduit.DataType.Codec
import Conduit.Decimal.Binary64
import Conduit.Decimal.Layout
import Conduit.Decimal.Scale
import Conduit.Decimal.Shortest
import Conduit.Deferred
import Conduit.Demo.Documents
import Conduit.Demo.Options
import Conduit.Demo.Squares
import Conduit.Demo.Threads
import Conduit.Demo.Toml
import Conduit.Demo.Yaml
import Conduit.Error
import Conduit.Inspect
import Conduit.Json.Basic
import Conduit.Json.Fault
import Conduit.Json.Number
import Conduit.Json.Printer
import Conduit.Json.Reader
import Conduit.Json.Record
import Conduit.Literal
import Conduit.Local
import Conduit.Machine.History
import Conduit.Machine.State
import Conduit.Machine.Step
import Conduit.Machine.Trampoline
import Conduit.Main
import Conduit.ParallelMap
import Conduit.Pipeline.Basic
import Conduit.Pipeline.Builder
import Conduit.Pipeline.Path
import Conduit.Proofs.Config.Overrides
import Conduit.Proofs.Config.Validity
import Conduit.Proofs.Coordinator.Agreement
import Conduit.Proofs.Coordinator.Backlog
import Conduit.Proofs.Coordinator.Blame
import Conduit.Proofs.Coordinator.Completion
import Conduit.Proofs.Coordinator.Conduct
import Conduit.Proofs.Coordinator.Confluence
import Conduit.Proofs.Coordinator.Custody
import Conduit.Proofs.Coordinator.Deeds
import Conduit.Proofs.Coordinator.Gathering
import Conduit.Proofs.Coordinator.Immediate
import Conduit.Proofs.Coordinator.Location
import Conduit.Proofs.Coordinator.Moves
import Conduit.Proofs.Coordinator.Outcomes
import Conduit.Proofs.Coordinator.Ports
import Conduit.Proofs.Coordinator.Sequence
import Conduit.Proofs.Coordinator.Soundness
import Conduit.Proofs.Coordinator.Stories
import Conduit.Proofs.Coordinator.Tasks
import Conduit.Proofs.DataType.RoundTrip
import Conduit.Proofs.Error.Causes
import Conduit.Proofs.Error.Verdict
import Conduit.Proofs.Json.Depth
import Conduit.Proofs.Json.Integers
import Conduit.Proofs.Json.Reading
import Conduit.Proofs.Json.Strings
import Conduit.Proofs.Json.Values
import Conduit.Proofs.Machine.Context
import Conduit.Proofs.Machine.Delivery
import Conduit.Proofs.Machine.Evaluation
import Conduit.Proofs.Machine.Itinerary
import Conduit.Proofs.Machine.Nesting
import Conduit.Proofs.Machine.Rules
import Conduit.Proofs.Machine.Simulation
import Conduit.Proofs.Machine.Tally
import Conduit.Proofs.Machine.Typing
import Conduit.Proofs.Machine.Visits
import Conduit.Proofs.Pipeline.Address
import Conduit.Proofs.Pipeline.Elementwise
import Conduit.Proofs.Text.Spelling
import Conduit.Proofs.Traversal.Clocks
import Conduit.Proofs.Traversal.Counting
import Conduit.Proofs.Traversal.Failures
import Conduit.Proofs.Traversal.Fates
import Conduit.Proofs.Traversal.Mirrors
import Conduit.Proofs.Traversal.Order
import Conduit.Proofs.Traversal.Passages
import Conduit.Proofs.Traversal.Places
import Conduit.Proofs.Traversal.Positions
import Conduit.Proofs.Traversal.Prompt
import Conduit.Proofs.Traversal.Records
import Conduit.Proofs.Traversal.Rounds
import Conduit.Proofs.Traversal.Stages
import Conduit.Proofs.Wire.Crossing
import Conduit.Proofs.Wire.Depth
import Conduit.Proofs.Wire.Messages
import Conduit.Proofs.Wire.Replies
import Conduit.Proofs.Wire.RoundTrip
import Conduit.Rehearsal
import Conduit.Text.Blank
import Conduit.Text.Digits
import Conduit.Text.Numeral
import Conduit.Text.Quoted
import Conduit.Text.Visible
import Conduit.Traced
import Conduit.Transport.CancelFlag
import Conduit.Transport.Channel
import Conduit.Transport.ThreadSpawner
import Conduit.Traversal.Gather
import Conduit.Traversal.Shape
import Conduit.Value
import Conduit.Wire.Message
import Conduit.Wire.Names
import Conduit.Wire.Reply
import Conduit.Worker
