import McuBridge.Lib.Run
import McuBridge.Lib.Pieces
import McuBridge.Lib.LowerCase
import McuBridge.Lib.StackWalk
import McuBridge.Lib.WrappingClock
import McuBridge.Lib.BinarySearch
import McuBridge.Lib.Semaphore
import McuBridge.Lib.EpochLog
import McuBridge.Lib.Delivery
import McuBridge.Lib.Proto
import McuBridge.Lib.SqlTable
import McuBridge.Lib.BoundedFifo
import McuBridge.Lib.TimerService
import McuBridge.Lib.SlotPool
import McuBridge.Protocol
import McuBridge.Wire
import McuBridge.Messages
import McuBridge.Platform
import McuBridge.Mcu.Fsm
import McuBridge.Mcu.State
import McuBridge.Mcu.Security
import McuBridge.Mcu.Transmit
import McuBridge.Mcu.Services
import McuBridge.Mcu.Dispatch
import McuBridge.Mcu.Step
import McuBridge.Mcu.Lookup
import McuBridge.Mcu.Micro
import McuBridge.Mcu.DispatchSteps
import McuBridge.Mcu.EventSteps
import McuBridge.Mcu.SyncAuth
import McuBridge.Mcu.AckDedup
import McuBridge.Mcu.Session
import McuBridge.Mcu.NonceUnique
import McuBridge.Daemon.Frame
import McuBridge.Mcu.Replay
import McuBridge.Mcu.TxQueue
import McuBridge.Mcu.TxPool
import McuBridge.Mcu.FlowControl
import McuBridge.Mcu.ConsoleOutput
import McuBridge.Mcu.DecryptPath
import McuBridge.Mcu.DedupSound
import McuBridge.Mcu.Replies
import McuBridge.Mcu.DedupRuns
import McuBridge.Mcu.AckDiscipline
import McuBridge.Mcu.QueryRepeats
import McuBridge.Mcu.PinBounds
import McuBridge.Mcu.PostFailure
import McuBridge.Mcu.Authenticity
import McuBridge.Mcu.Timers
import McuBridge.Mcu.TickAccounting
import McuBridge.Mcu.TimingConfig
import McuBridge.Daemon.Topics
import McuBridge.Daemon.TopicPaths
import McuBridge.Daemon.Policy
import McuBridge.Daemon.Request
import McuBridge.Daemon.Authorization
import McuBridge.Daemon.McuHandlers
import McuBridge.Daemon.Link
import McuBridge.Daemon.LinkSteps
import McuBridge.Daemon.HandshakeRuns
import McuBridge.Daemon.HandshakeTasks
import McuBridge.Daemon.FrameCodec
import McuBridge.Daemon.Freshness
import McuBridge.Daemon.Reactions
import McuBridge.Daemon.RequestTasks
import McuBridge.Daemon.LinkGate
import McuBridge.Daemon.RequestGate
import McuBridge.Daemon.RequestErrors
import McuBridge.Daemon.ReadLoop
import McuBridge.Daemon.ReaderStalls
import McuBridge.Daemon.ReaderWaits
import McuBridge.Daemon.Fallback
import McuBridge.Daemon.ReaderErrors
import McuBridge.Daemon.ReaderContained
import McuBridge.Daemon.SqliteDeque
import McuBridge.Daemon.DequeCalls
import McuBridge.Daemon.DequeFifo
import McuBridge.Daemon.DequeFaults
import McuBridge.Daemon.Config
import McuBridge.Daemon.Storage
import McuBridge.Daemon.Sandbox
import McuBridge.Daemon.FlashProtection
import McuBridge.Daemon.FileQuota
import McuBridge.Daemon.SendCalls
import McuBridge.Daemon.SendAnswers
import McuBridge.Daemon.SendReset
import McuBridge.Daemon.SendAttribution
import McuBridge.Daemon.RawSends
import McuBridge.Daemon.NonceCounters
import McuBridge.Daemon.SendQueue
import McuBridge.Daemon.PinReads
import McuBridge.Daemon.ConsoleFlush
import McuBridge.Daemon.ConsoleChunks
import McuBridge.Daemon.Commands
import McuBridge.Daemon.CommandNames
import McuBridge.Daemon.AllowedPolicy
import McuBridge.Daemon.Processes
import McuBridge.Daemon.ProcessSlots
import McuBridge.Daemon.CloudSpool
import McuBridge.Daemon.CloudFlush
import McuBridge.Daemon.CloudOrder
import McuBridge.Daemon.CloudAccounts
import McuBridge.Daemon.ReplyRouting
import McuBridge.Daemon.McuFileRead
import McuBridge.Daemon.Backoff
import McuBridge.Daemon.DatastoreKeys
import McuBridge.Daemon.Settings
import McuBridge.Daemon.FlagDenials
import McuBridge.Daemon.DefaultConfig
import McuBridge.Daemon.StateConfig
import McuBridge.Daemon.ConsoleSubscribers
import McuBridge.Net.System
import McuBridge.Net.AtMostOnce
import McuBridge.Net.Traffic
import McuBridge.Net.Counters
import McuBridge.Net.Handshake
import McuBridge.Net.SyncAgreement
import McuBridge.Net.LateAnswer
import McuBridge.Net.Origin
import McuBridge.Net.OneFormat
import McuBridge.Net.Baudrate
import McuBridge.Net.SameFrames
import McuBridge.Net.InSession
import McuBridge.Net.RemoteCommands
import McuBridge.Net.FileReads
import McuBridge.Net.MailboxDelivery
import McuBridge.Net.SystemQueries
import McuBridge.Net.CommandOrder
import McuBridge.Net.Recovery
import McuBridge.Net.CommandDelivery
import McuBridge.Net.PinControl
import McuBridge.Net.CommandQueue
import McuBridge.Gateway.Sessions
import McuBridge.Daemon.ProcessOutput
import McuBridge.Daemon.FrameStream
import McuBridge.Daemon.CacheCalls
import McuBridge.Daemon.CloudSession
import McuBridge.Mcu.Callbacks
