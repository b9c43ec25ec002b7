import SocksProxy.AccessLog
import SocksProxy.Args
import SocksProxy.Buffer
import SocksProxy.Bytes
import SocksProxy.Client
import SocksProxy.ClientSession
import SocksProxy.ClientWrite
import SocksProxy.Close
import SocksProxy.Dialogue
import SocksProxy.Environment
import SocksProxy.EventLoop
import SocksProxy.InetNtop
import SocksProxy.Invariant
import SocksProxy.ItemTable
import SocksProxy.Kernel
import SocksProxy.Lemmas.Accepting
import SocksProxy.Lemmas.Closing
import SocksProxy.Lemmas.Connecting
import SocksProxy.Lemmas.Consistent
import SocksProxy.Lemmas.Control
import SocksProxy.Lemmas.Dispatch
import SocksProxy.Lemmas.Errno
import SocksProxy.Lemmas.Files
import SocksProxy.Lemmas.Frames
import SocksProxy.Lemmas.Handled
import SocksProxy.Lemmas.Jobs
import SocksProxy.Lemmas.Managing
import SocksProxy.Lemmas.Reading
import SocksProxy.Lemmas.Requests
import SocksProxy.Lemmas.Resolving
import SocksProxy.Lemmas.Serving
import SocksProxy.Lemmas.Slots
import SocksProxy.Lemmas.Teardown
import SocksProxy.Lemmas.Undisturbed
import SocksProxy.Lemmas.Verdicts
import SocksProxy.Library.Channels
import SocksProxy.Library.Fifo
import SocksProxy.Library.Lines
import SocksProxy.Library.Matching
import SocksProxy.Library.Separators
import SocksProxy.Library.Simulation
import SocksProxy.Library.SlotTable
import SocksProxy.Library.Traces
import SocksProxy.Library.Words
import SocksProxy.Machine
import SocksProxy.Management
import SocksProxy.NetUtils
import SocksProxy.Ownership
import SocksProxy.Parser
import SocksProxy.ParserUtils
import SocksProxy.Ready
import SocksProxy.Resolver
import SocksProxy.Runs
import SocksProxy.Selector
import SocksProxy.Served
import SocksProxy.Server
import SocksProxy.ServerRun
import SocksProxy.Session
import SocksProxy.Socks5
import SocksProxy.Stm
import SocksProxy.TargetConnection
import SocksProxy.Theorems.AccessLog
import SocksProxy.Theorems.Accountability
import SocksProxy.Theorems.Accounting
import SocksProxy.Theorems.Admission
import SocksProxy.Theorems.Attempts
import SocksProxy.Theorems.BlockingHelpers
import SocksProxy.Theorems.BufferQueue
import SocksProxy.Theorems.Buffers
import SocksProxy.Theorems.Capacity
import SocksProxy.Theorems.ClientCommand
import SocksProxy.Theorems.ClientRun
import SocksProxy.Theorems.CommandLine
import SocksProxy.Theorems.ConnectGrammar
import SocksProxy.Theorems.Descriptors
import SocksProxy.Theorems.Destination
import SocksProxy.Theorems.EndOfStream
import SocksProxy.Theorems.Fairness
import SocksProxy.Theorems.HumanAddress
import SocksProxy.Theorems.Isolation
import SocksProxy.Theorems.Iteration
import SocksProxy.Theorems.LateNotices
import SocksProxy.Theorems.Lifetimes
import SocksProxy.Theorems.LockStep
import SocksProxy.Theorems.LogLines
import SocksProxy.Theorems.MainLoop
import SocksProxy.Theorems.ManagementExchange
import SocksProxy.Theorems.ManagementInput
import SocksProxy.Theorems.ManagementLines
import SocksProxy.Theorems.Messages
import SocksProxy.Theorems.MetricsReport
import SocksProxy.Theorems.Negotiation
import SocksProxy.Theorems.Notifications
import SocksProxy.Theorems.ParserBounds
import SocksProxy.Theorems.Progress
import SocksProxy.Theorems.Relay
import SocksProxy.Theorems.Replies
import SocksProxy.Theorems.ReplyCodes
import SocksProxy.Theorems.ResolverJob
import SocksProxy.Theorems.Secrecy
import SocksProxy.Theorems.SelectorState
import SocksProxy.Theorems.Settings
import SocksProxy.Theorems.Setup
import SocksProxy.Theorems.Shutdown
import SocksProxy.Theorems.Sockets
import SocksProxy.Theorems.StateVisits
import SocksProxy.Theorems.StringCompare
import SocksProxy.Theorems.Surplus
import SocksProxy.Theorems.TableGrowth
import SocksProxy.Theorems.Targets
import SocksProxy.Theorems.UsersHistory
import SocksProxy.Theorems.UsersListing
import SocksProxy.Theorems.UsersTable
import SocksProxy.Theorems.WakeUps
import SocksProxy.UserMap
import SocksProxy.Users
