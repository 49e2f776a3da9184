import AcceptorHost.Bridge
import AcceptorHost.Console.Arguments
import AcceptorHost.Console.EventPrinter
import AcceptorHost.Console.Session
import AcceptorHost.Courier.Audience
import AcceptorHost.Courier.Basic
import AcceptorHost.Courier.Loop
import AcceptorHost.Courier.Operation
import AcceptorHost.Courier.Tick
import AcceptorHost.Event
import AcceptorHost.Fault
import AcceptorHost.Json.Printer
import AcceptorHost.Json.Reader
import AcceptorHost.Link.AnsweredPort
import AcceptorHost.Link.Dialogue
import AcceptorHost.Link.Port
import AcceptorHost.Link.Script
import AcceptorHost.Link.SerialPort
import AcceptorHost.Log.Book
import AcceptorHost.Log.Level
import AcceptorHost.Main
import AcceptorHost.Number.Binary64
import AcceptorHost.Number.Decimal
import AcceptorHost.Number.Power
import AcceptorHost.Number.Whole
import AcceptorHost.Proofs.Accounts
import AcceptorHost.Proofs.Acts
import AcceptorHost.Proofs.Agreement
import AcceptorHost.Proofs.Alarms
import AcceptorHost.Proofs.Alternation
import AcceptorHost.Proofs.BillNames
import AcceptorHost.Proofs.Building
import AcceptorHost.Proofs.Chronicle
import AcceptorHost.Proofs.CommandStream
import AcceptorHost.Proofs.Confinement
import AcceptorHost.Proofs.Courtesy
import AcceptorHost.Proofs.Credits
import AcceptorHost.Proofs.Custody
import AcceptorHost.Proofs.Deliveries
import AcceptorHost.Proofs.DisturbedTicks
import AcceptorHost.Proofs.Endings
import AcceptorHost.Proofs.Escrow
import AcceptorHost.Proofs.ExpectedCommands
import AcceptorHost.Proofs.Frames
import AcceptorHost.Proofs.HalfDuplex
import AcceptorHost.Proofs.Identity
import AcceptorHost.Proofs.JsonLimits
import AcceptorHost.Proofs.JsonText
import AcceptorHost.Proofs.Ledger
import AcceptorHost.Proofs.LibraryCalls
import AcceptorHost.Proofs.Lifecycle
import AcceptorHost.Proofs.Loading
import AcceptorHost.Proofs.LockStep
import AcceptorHost.Proofs.LoopExits
import AcceptorHost.Proofs.LoopLaws
import AcceptorHost.Proofs.LoopLife
import AcceptorHost.Proofs.LoopMarks
import AcceptorHost.Proofs.LoopState
import AcceptorHost.Proofs.LoopThread
import AcceptorHost.Proofs.Looping
import AcceptorHost.Proofs.MailHistory
import AcceptorHost.Proofs.Matching
import AcceptorHost.Proofs.Minutes
import AcceptorHost.Proofs.NestedOperations
import AcceptorHost.Proofs.Observers
import AcceptorHost.Proofs.Openings
import AcceptorHost.Proofs.OperationLaws
import AcceptorHost.Proofs.Overflow
import AcceptorHost.Proofs.Patience
import AcceptorHost.Proofs.Pausing
import AcceptorHost.Proofs.PendingStops
import AcceptorHost.Proofs.Plans
import AcceptorHost.Proofs.PortPeers
import AcceptorHost.Proofs.Printing
import AcceptorHost.Proofs.Reactions
import AcceptorHost.Proofs.Recovery
import AcceptorHost.Proofs.RegistryHistory
import AcceptorHost.Proofs.Repetition
import AcceptorHost.Proofs.Replies
import AcceptorHost.Proofs.ReplyBits
import AcceptorHost.Proofs.Reports
import AcceptorHost.Proofs.Rereading
import AcceptorHost.Proofs.Restarts
import AcceptorHost.Proofs.Rounding
import AcceptorHost.Proofs.RunLaws
import AcceptorHost.Proofs.RunRelations
import AcceptorHost.Proofs.SerialNumbers
import AcceptorHost.Proofs.Sessions
import AcceptorHost.Proofs.Setbacks
import AcceptorHost.Proofs.Settling
import AcceptorHost.Proofs.Signals
import AcceptorHost.Proofs.Silence
import AcceptorHost.Proofs.Simulations
import AcceptorHost.Proofs.Snapshots
import AcceptorHost.Proofs.StatusLines
import AcceptorHost.Proofs.Stopping
import AcceptorHost.Proofs.TickCases
import AcceptorHost.Proofs.TickLaws
import AcceptorHost.Proofs.TickRows
import AcceptorHost.Proofs.Ticks
import AcceptorHost.Proofs.Traffic
import AcceptorHost.Proofs.Translation
import AcceptorHost.Proofs.Watch
import AcceptorHost.Proofs.WholeReplies
import AcceptorHost.Registry
import AcceptorHost.Run
import AcceptorHost.Settings
import AcceptorHost.Text.Blank
import AcceptorHost.Text.Digit
import AcceptorHost.Text.Display
import AcceptorHost.Text.HalfPair
import AcceptorHost.Text.Hex
import AcceptorHost.Text.Lines
import AcceptorHost.Text.Printable
import AcceptorHost.Text.Quoted
import AcceptorHost.Text.UpperCase
import AcceptorHost.Trace
import AcceptorHost.Value
import AcceptorHost.Wire.Codec
import AcceptorHost.Wire.Frame
import AcceptorHost.Wire.HexText
import AcceptorHost.Wire.Reply
import AcceptorHost.Wire.SerialNumber
