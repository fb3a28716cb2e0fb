import BringUp.Device.Scripted
import BringUp.Function.Builtin
import BringUp.Main
import BringUp.Port.Serial
import BringUp.Port.Simulator
import BringUp.Session.Run
import BringUp.Proofs.Files.Contents
import BringUp.Proofs.Pattern.Names
import BringUp.Proofs.Text.Parts
import BringUp.Proofs.Text.Factoring
import BringUp.Proofs.Text.Cutting
import BringUp.Proofs.Text.Numeral
import BringUp.Proofs.Text.Decimal
import BringUp.Proofs.Text.LineEnds
import BringUp.Proofs.Text.Trimming
import BringUp.Proofs.Text.Octets
import BringUp.Proofs.Text.Decoding
import BringUp.Proofs.Script.CommandList
import BringUp.Proofs.Script.Sequence
import BringUp.Proofs.Variables.Reference
import BringUp.Proofs.Variables.Substitution
import BringUp.Proofs.Variables.Joints
import BringUp.Proofs.Variables.Capture
import BringUp.Proofs.Step.Kind
import BringUp.Proofs.Reply.Lines
import BringUp.Proofs.Reply.Splitting
import BringUp.Proofs.Reply.Taking
import BringUp.Proofs.Reply.Moves
import BringUp.Proofs.Reply.Isolation
import BringUp.Proofs.Reply.Race
import BringUp.Proofs.Reply.Record
import BringUp.Proofs.Reply.Delivery
import BringUp.Proofs.Reply.Chunks
import BringUp.Proofs.Reply.CatchingUp
import BringUp.Proofs.Reply.Shift
import BringUp.Proofs.Reply.Pumping
import BringUp.Proofs.Reader.Rounds
import BringUp.Proofs.Reader.Forwarding
import BringUp.Proofs.Reader.Boundaries
import BringUp.Proofs.Engine.Effects
import BringUp.Proofs.Engine.Atomicity
import BringUp.Proofs.Engine.Bisimulation
import BringUp.Proofs.Engine.Chunking
import BringUp.Proofs.Engine.Resuming
import BringUp.Proofs.Engine.Account
import BringUp.Proofs.Engine.Timing
import BringUp.Proofs.Engine.Capture
import BringUp.Proofs.Engine.Writing
import BringUp.Proofs.Session.Coherence
import BringUp.Proofs.Session.Order
import BringUp.Proofs.Session.Progress
import BringUp.Proofs.Session.Transcript
import BringUp.Proofs.Session.Reconnection
import BringUp.Proofs.Session.Resuming
import BringUp.Proofs.Session.Restart
import BringUp.Proofs.Session.Closing
import BringUp.Proofs.Session.Links
import BringUp.Proofs.Session.Provenance
import BringUp.Proofs.Session.Clock
import BringUp.Proofs.Session.Schedule
import BringUp.Proofs.Session.WrittenLines
import BringUp.Proofs.Step.Expectation
import BringUp.Proofs.Step.Comparison
import BringUp.Proofs.Step.Reading
import BringUp.Proofs.Pattern.Closed
import BringUp.Proofs.Pattern.Ways
import BringUp.Proofs.Pattern.Exploring
import BringUp.Proofs.Pattern.Leftmost
import BringUp.Proofs.Variables.Matching
import BringUp.Proofs.Function.Distance
import BringUp.Proofs.Port.Key
import BringUp.Proofs.Port.Ranking
import BringUp.Proofs.Port.NaturalOrder
