import ServiceServer.Lib.Machine
import ServiceServer.Lib.Ledger
import ServiceServer.Lib.Decimal
import ServiceServer.Lib.Lines
import ServiceServer.Lib.Cyclic
import ServiceServer.Lib.Reordering
import ServiceServer.Lib.Network
import ServiceServer.Lib.Interleaving
import ServiceServer.Lib.Feistel
import ServiceServer.Lib.BlockModes
import ServiceServer.Lib.Words
import ServiceServer.Runtime
import ServiceServer.NetworkDefs
import ServiceServer.StartMatchData
import ServiceServer.PacketDispatcher
import ServiceServer.VersionChecker
import ServiceServer.MatchmakingServer
import ServiceServer.Service
import ServiceServer.Matchmaking.Steps
import ServiceServer.Matchmaking.Passes
import ServiceServer.Matchmaking.Entries
import ServiceServer.Matchmaking.Cancel
import ServiceServer.Matchmaking.Retransmission
import ServiceServer.Matchmaking.Ids
import ServiceServer.Matchmaking.Pairing
import ServiceServer.Matchmaking.Sessions
import ServiceServer.Matchmaking.Receive
import ServiceServer.Matchmaking.Reordering
import ServiceServer.Protocol.Agreement
import ServiceServer.Protocol.GameServer
import ServiceServer.Protocol.Requests
import ServiceServer.Protocol.Serialization
import ServiceServer.Protocol.Acks
import ServiceServer.Protocol.Told
import ServiceServer.Protocol.Replies
import ServiceServer.Protocol.Fits
import ServiceServer.Matchmaking.Queues
import ServiceServer.Matchmaking.Expiry
import ServiceServer.MainLoop
import ServiceServer.Dispatcher.Loop
import ServiceServer.Dispatcher.Order
import ServiceServer.Dispatcher.Waiting
import ServiceServer.VersionService
import ServiceServer.Login.Bcrypt
import ServiceServer.Login.DatabaseManager
import ServiceServer.Login.Keys
import ServiceServer.Login.Blowfish
import ServiceServer.Login.InitState
import ServiceServer.Login.KeySchedule
import ServiceServer.Login.NodeBcrypt
import ServiceServer.Login.LoginServer
import ServiceServer.Login.Responses
import ServiceServer.Login.Connection
import ServiceServer.Login.Accounts
import ServiceServer.ServiceManager
import ServiceServer.Threads.Calls
import ServiceServer.Threads.Alone
import ServiceServer.Threads.Outlines
import ServiceServer.Threads.Undisturbed
import ServiceServer.Threads.Shutdown
import ServiceServer.Threads.Completion
import ServiceServer.Threads.Delivery
