import Sequencer.Command.Basic
import Sequencer.Command.Behaviour
import Sequencer.Command.Cue
import Sequencer.Command.Scripted
import Sequencer.CommandLine.Arguments
import Sequencer.CommandLine.Demo
import Sequencer.CommandLine.Directive
import Sequencer.CommandLine.Filter
import Sequencer.CommandLine.Pattern.Basic
import Sequencer.CommandLine.Pattern.Fault
import Sequencer.CommandLine.Pattern.Reader
import Sequencer.CommandLine.Response
import Sequencer.CommandLine.Variables
import Sequencer.CommandLine.Variables.Line
import Sequencer.CommandLine.Variables.Value
import Sequencer.Config.Basic
import Sequencer.Config.Interchange
import Sequencer.Config.Load
import Sequencer.Config.Merge
import Sequencer.Config.Render
import Sequencer.Config.Setting
import Sequencer.Decimal.Binary
import Sequencer.Decimal.Reading
import Sequencer.Decimal.Shortest
import Sequencer.Description
import Sequencer.Engine.Basic
import Sequencer.Engine.Driver
import Sequencer.Engine.Interchange
import Sequencer.Engine.Loop
import Sequencer.Engine.Machine
import Sequencer.Engine.Operations
import Sequencer.Json.Basic
import Sequencer.Json.Printer
import Sequencer.Json.Reader
import Sequencer.Json.Record
import Sequencer.Main
import Sequencer.Notice
import Sequencer.Program
import Sequencer.Register
import Sequencer.Sequence.Basic
import Sequencer.Sequence.Edit
import Sequencer.Sequence.Layout
import Sequencer.Sequence.Refresh
import Sequencer.Studio
import Sequencer.Table
import Sequencer.Text.Alphanumeric
import Sequencer.Text.Blank
import Sequencer.Text.Bytes
import Sequencer.Text.CaseMap
import Sequencer.Text.Invisible
import Sequencer.Text.Lines
import Sequencer.Text.Lowercase
import Sequencer.Text.Quoted
import Sequencer.Text.Reading
import Sequencer.Text.Span
import Sequencer.Toml.Basic
import Sequencer.Toml.Moment
import Sequencer.Toml.Reader
import Sequencer.Toml.Scalar
import Sequencer.Toml.Text
import Sequencer.Toml.Tree
import Sequencer.Uuid
import Sequencer.Word
import Sequencer.Proofs.Sequence.Caches
import Sequencer.Proofs.Sequence.Built
import Sequencer.Proofs.Moments
import Sequencer.Proofs.Ledger
import Sequencer.Proofs.Listening
import Sequencer.Proofs.Engine.Moves
import Sequencer.Proofs.Engine.Kept
import Sequencer.Proofs.Engine.Invariant
import Sequencer.Proofs.Engine.Steps
import Sequencer.Proofs.Engine.Activation
import Sequencer.Proofs.Engine.RunLoop
import Sequencer.Proofs.Engine.Calls
import Sequencer.Proofs.Histories
import Sequencer.Proofs.Handles
import Sequencer.Proofs.EngineState
import Sequencer.Proofs.Broadcast
import Sequencer.Proofs.Sequence.Accuracy
import Sequencer.Proofs.Sequence.Editing
import Sequencer.Proofs.Engine.Strides
import Sequencer.Proofs.Runs
import Sequencer.Proofs.Completion
import Sequencer.Proofs.Cursor
import Sequencer.Proofs.Engine.Passing
import Sequencer.Proofs.Scenes
import Sequencer.Proofs.Engine.Replies
import Sequencer.Proofs.Engine.Points
import Sequencer.Proofs.Superseding
import Sequencer.Proofs.Fates
import Sequencer.Proofs.StopHooks
import Sequencer.Proofs.StopDiscipline
import Sequencer.Proofs.Sequence.Likeness
import Sequencer.Proofs.Engine.Twins
import Sequencer.Proofs.Engine.TwinSteps
import Sequencer.Proofs.Leakage
import Sequencer.Proofs.Sequence.Labels
import Sequencer.Proofs.Engine.Hooks
import Sequencer.Proofs.Engine.Tracing
import Sequencer.Proofs.Refusals
import Sequencer.Proofs.Engine.Jumps
import Sequencer.Proofs.LabelMeaning
import Sequencer.Proofs.Engine.Failing
import Sequencer.Proofs.Faults
import Sequencer.Proofs.Sequence.Kinship
import Sequencer.Proofs.Sights
import Sequencer.Proofs.Holes
import Sequencer.Proofs.Driving
import Sequencer.Proofs.Engine.Polling
import Sequencer.Proofs.Engine.Bystanders
import Sequencer.Proofs.Engine.Peers
import Sequencer.Proofs.Independence
import Sequencer.Proofs.Waits
import Sequencer.Proofs.Toml.Strings
import Sequencer.Proofs.Toml.Lines
import Sequencer.Proofs.Config.RoundTrip
import Sequencer.Proofs.Config.Knobs
import Sequencer.Proofs.Config.Paths
import Sequencer.Proofs.Config.Merging
import Sequencer.Proofs.Config.Layers
import Sequencer.Proofs.Sequence.Answers
import Sequencer.Proofs.Sequence.Brackets
import Sequencer.Proofs.Blocks
import Sequencer.Proofs.Recovery
import Sequencer.Proofs.Engine.Abreast
import Sequencer.Proofs.Engine.HostCode
import Sequencer.Proofs.Routes
import Sequencer.Proofs.Polls
import Sequencer.Proofs.ForwardScripts
import Sequencer.Proofs.Config.Printing
import Sequencer.Proofs.Config.Spellings
import Sequencer.Proofs.Config.Arrivals
import Sequencer.Proofs.Sequence.Strict
import Sequencer.Proofs.Engine.Strict
import Sequencer.Proofs.Engine.Sturdiness
import Sequencer.Proofs.Engine.Unbroken
import Sequencer.Proofs.Robustness
