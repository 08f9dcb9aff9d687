import CarrotRpc.Library.TransitionSystem
import CarrotRpc.Library.OrderedMap
import CarrotRpc.Library.Memory
import CarrotRpc.Library.ByteOrder
import CarrotRpc.Library.WireFields
import CarrotRpc.Common.Controller
import CarrotRpc.Common.Packet
import CarrotRpc.Common.Utils
import CarrotRpc.Protob.Messages
import CarrotRpc.Protob.WireFormat
import CarrotRpc.Client.ChannelState
import CarrotRpc.Client.AsyncChannel
import CarrotRpc.Client.ChannelRuns
import CarrotRpc.Client.Ledger
import CarrotRpc.Client.LedgerInvariants
import CarrotRpc.Client.LedgerOnce
import CarrotRpc.Client.HandlerSteps
import CarrotRpc.Client.CallScripts
import CarrotRpc.Client.HandlerScripts
import CarrotRpc.Client.RunInvariants
import CarrotRpc.Client.Completion
import CarrotRpc.Client.Borrowing
import CarrotRpc.Client.Forgetting
import CarrotRpc.Client.Framing
import CarrotRpc.Client.SetUp
import CarrotRpc.Client.SetUpMoves
import CarrotRpc.Client.Establishing
import CarrotRpc.Server.Services
import CarrotRpc.Server.SimpleServer
import CarrotRpc.Server.ThreadedServer
import CarrotRpc.Server.AsyncServer
import CarrotRpc.Common.Growth
import CarrotRpc.Common.HandlingProperties
import CarrotRpc.Server.RequestProperties
import CarrotRpc.Server.SimpleServerProperties
import CarrotRpc.Server.Descriptors
import CarrotRpc.Server.AsyncServerProperties
import CarrotRpc.Server.Bookkeeping
import CarrotRpc.Server.ResponseRoom
import CarrotRpc.Common.HeaderBounds
import CarrotRpc.Server.HeaderBounds
import CarrotRpc.Protocol.Termination
import CarrotRpc.Server.UnknownTargets
import CarrotRpc.Server.Pool
import CarrotRpc.Common.Receiving
import CarrotRpc.Server.Replies
import CarrotRpc.Server.Isolation
import CarrotRpc.Client.BlockingChannel
import CarrotRpc.Protocol.ResponseReceiver
import CarrotRpc.Common.Parts
import CarrotRpc.Protocol.ResponseBounds
import CarrotRpc.Protocol.Streams
import CarrotRpc.Protocol.CallSequences
import CarrotRpc.Server.AsyncReplies
import CarrotRpc.Client.Answered
import CarrotRpc.Protocol.Verdicts
import CarrotRpc.Common.GrowthRuns
import CarrotRpc.Common.Transfers
import CarrotRpc.Protocol.Naming
import CarrotRpc.Client.Routing
import CarrotRpc.Server.BackPointers
import CarrotRpc.Server.Arrivals
import CarrotRpc.Server.InOrder
import CarrotRpc.Protocol.Serving
import CarrotRpc.Protocol.Interchange
import CarrotRpc.Protocol.Pairings
import CarrotRpc.Client.Timers
import CarrotRpc.Client.SessionSteps
import CarrotRpc.Client.Sparing
import CarrotRpc.Client.Deliveries
import CarrotRpc.Protocol.Conversation
import CarrotRpc.Protocol.Agreement
import CarrotRpc.Protocol.OwnResponses
import CarrotRpc.Client.Deadlines
import CarrotRpc.Client.Successes
import CarrotRpc.Protocol.Lifetimes
import CarrotRpc.Server.AsyncIsolation
import CarrotRpc.Protocol.Pipelining
