import NovaIIM.Program
import NovaIIM.Store
import NovaIIM.Rows
import NovaIIM.Recency
import NovaIIM.Runs
import NovaIIM.Machine
import NovaIIM.Paging
import NovaIIM.Newest
import NovaIIM.LittleEndian
import NovaIIM.Framing
import NovaIIM.Calendar
import NovaIIM.Types
import NovaIIM.PacketCodec
import NovaIIM.Json
import NovaIIM.JsonCodec
import NovaIIM.Protocol
import NovaIIM.DedupCache
import NovaIIM.ConnManager
import NovaIIM.RateLimiter
import NovaIIM.Snowflake
import NovaIIM.LimiterPurge
import NovaIIM.SlidingWindow
import NovaIIM.Objects
import NovaIIM.DedupRuns
import NovaIIM.World
import NovaIIM.Dao
import NovaIIM.ConvService
import NovaIIM.MsgService
import NovaIIM.FriendService
import NovaIIM.GroupService
import NovaIIM.SyncService
import NovaIIM.FileService
import NovaIIM.UserService
import NovaIIM.AdminServer
import NovaIIM.Calls
import NovaIIM.Router
import NovaIIM.FriendWrites
import NovaIIM.ConvWrites
import NovaIIM.GroupWrites
import NovaIIM.MsgWrites
import NovaIIM.SendPhases
import NovaIIM.Services
import NovaIIM.SeqInvariant
import NovaIIM.Blocking
import NovaIIM.Refriending
import NovaIIM.SyncPaging
import NovaIIM.SyncPhases
import NovaIIM.SyncRace
import NovaIIM.Traffic
import NovaIIM.Utf8
import NovaIIM.Truncation
import NovaIIM.Like
import NovaIIM.NicknameSearch
import NovaIIM.PasswordUtils
import NovaIIM.Paths
import NovaIIM.FileServer
import NovaIIM.FileNames
import NovaIIM.UploadLimit
import NovaIIM.Previews
import NovaIIM.BlockedSending
import NovaIIM.DedupReplay
import NovaIIM.AtMostOnce
import NovaIIM.Transactions
import NovaIIM.Replies
import NovaIIM.FriendTransactions
import NovaIIM.FriendLists
import NovaIIM.FriendUnique
import NovaIIM.GroupTransactions
import NovaIIM.GroupInvariant
import NovaIIM.PrivateChats
import NovaIIM.ProfileTransactions
import NovaIIM.AllOrNothing
import NovaIIM.Twins
import NovaIIM.Plain
import NovaIIM.Contents
import NovaIIM.Readers
import NovaIIM.Writers
import NovaIIM.Closed
import NovaIIM.Sessions
import NovaIIM.SessionTable
import NovaIIM.ChatMembers
import NovaIIM.Confidential
import NovaIIM.FanOut
import NovaIIM.TicketRing
import NovaIIM.MPMCQueue
import NovaIIM.MPMCSafety
import NovaIIM.WordPowers
import NovaIIM.QueueCapacity
import NovaIIM.MPMCFifo
import NovaIIM.ThreadPool
import NovaIIM.PoolSteps
import NovaIIM.PoolWakeups
import NovaIIM.PoolShutdown
import NovaIIM.ReadCursors
import NovaIIM.AdminTables
import NovaIIM.DecimalOrder
import NovaIIM.AdminAuth
import NovaIIM.AccountCreation
import NovaIIM.AccountAgreement
import NovaIIM.FreeEmails
import NovaIIM.AdminWrites
import NovaIIM.AdminRights
import NovaIIM.SingleFailure
import NovaIIM.RoleStatements
import NovaIIM.RoleIntegrity
import NovaIIM.LockOut
import NovaIIM.RoleFaults
import NovaIIM.RoleAtomicity
import NovaIIM.RbacCache
import NovaIIM.TokenLife
import NovaIIM.SessionPurge
import NovaIIM.MysqlPool
import NovaIIM.Reconnect
import NovaIIM.Backoff
import NovaIIM.ClientRequests
import NovaIIM.Completions
import NovaIIM.ChatStore
import NovaIIM.Desk
import NovaIIM.GenuineWindow
import NovaIIM.HistoryPaging
import NovaIIM.OpenRead
import NovaIIM.Backends
import NovaIIM.Recalls
import NovaIIM.UploadPaths
import NovaIIM.UploadFaults
import NovaIIM.Bans
import NovaIIM.MessageLog
import NovaIIM.Credentials
import NovaIIM.ServerSteps
import NovaIIM.Decisions
import NovaIIM.GroupLife
import NovaIIM.Consent
import NovaIIM.Gapless
import NovaIIM.AdminAuthority
import NovaIIM.Dispatch
import NovaIIM.GuessBound
import NovaIIM.RoundTrips
import NovaIIM.Standing
import NovaIIM.GhostConnections
import NovaIIM.SendOrder
import NovaIIM.PermissionText
import NovaIIM.Accounts
import NovaIIM.UserListing
