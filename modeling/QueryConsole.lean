import QueryConsole.Act
import QueryConsole.Client
import QueryConsole.CommandLine
import QueryConsole.IoError
import QueryConsole.Link.Address
import QueryConsole.Link.Error
import QueryConsole.Link.Frame.Format
import QueryConsole.Link.Frame.Read
import QueryConsole.Link.Frame.Write
import QueryConsole.Link.Stream
import QueryConsole.Main
import QueryConsole.Main.Socket
import QueryConsole.Options.Grammar
import QueryConsole.Options.Settings
import QueryConsole.Proofs.Client.Accounts
import QueryConsole.Proofs.Client.Clues
import QueryConsole.Proofs.Client.Exchange
import QueryConsole.Proofs.Client.Invoking
import QueryConsole.Proofs.Client.Life
import QueryConsole.Proofs.Client.Limit
import QueryConsole.Proofs.Client.Reception
import QueryConsole.Proofs.Dialogue.Interleaving
import QueryConsole.Proofs.Dialogue.Lockstep
import QueryConsole.Proofs.Flow.Arrivals
import QueryConsole.Proofs.Flow.Buffers
import QueryConsole.Proofs.Flow.Calls
import QueryConsole.Proofs.Flow.Delivery
import QueryConsole.Proofs.Flow.Entries
import QueryConsole.Proofs.Flow.FailStop
import QueryConsole.Proofs.Flow.FrameDecoding
import QueryConsole.Proofs.Flow.FrameFront
import QueryConsole.Proofs.Flow.FrameSequence
import QueryConsole.Proofs.Flow.FrameWriting
import QueryConsole.Proofs.Flow.InPlace
import QueryConsole.Proofs.Flow.Replay
import QueryConsole.Proofs.Flow.TextFrames
import QueryConsole.Proofs.Server.Apart
import QueryConsole.Proofs.Server.Connection
import QueryConsole.Proofs.Server.Transcript
import QueryConsole.Proofs.Server.Turns
import QueryConsole.Proofs.Session.Afterwards
import QueryConsole.Proofs.Session.Asking
import QueryConsole.Proofs.Session.Attribution
import QueryConsole.Proofs.Session.Balance
import QueryConsole.Proofs.Session.Clues
import QueryConsole.Proofs.Session.Conversation
import QueryConsole.Proofs.Session.Course
import QueryConsole.Proofs.Session.Cut
import QueryConsole.Proofs.Session.EventOrder
import QueryConsole.Proofs.Session.Limit
import QueryConsole.Proofs.Session.Pages
import QueryConsole.Proofs.Session.Piped
import QueryConsole.Proofs.Session.Scripts
import QueryConsole.Proofs.Session.Showing
import QueryConsole.Proofs.Session.Timing
import QueryConsole.Proofs.Session.Turn
import QueryConsole.Proofs.Session.Undisturbed
import QueryConsole.Proofs.Table.Description
import QueryConsole.Proofs.Table.Reading
import QueryConsole.Server
import QueryConsole.Session.Error
import QueryConsole.Session.Shell
import QueryConsole.Session.Source
import QueryConsole.Session.Terminal
import QueryConsole.Table
import QueryConsole.Text.Blank
import QueryConsole.Text.Cluster
import QueryConsole.Text.Cluster.Table
import QueryConsole.Text.Keys
import QueryConsole.Text.Lines
import QueryConsole.Text.Numeral
import QueryConsole.Text.Quoted
import QueryConsole.Text.Quoted.Table
import QueryConsole.Text.Utf8
import QueryConsole.Trace.Clue
import QueryConsole.Trace.Event
import QueryConsole.Trace.Metric
