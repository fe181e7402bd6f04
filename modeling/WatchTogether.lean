import WatchTogether.Lib.LabelledRun
import WatchTogether.Lib.KeyedTable
import WatchTogether.Rooms.Run
import WatchTogether.Rooms.Turn
import WatchTogether.Rooms.HostAbsence
import WatchTogether.Rooms.Authority
import WatchTogether.Lib.History
import WatchTogether.Rooms.Membership
import WatchTogether.Rooms.Replication
import WatchTogether.Rooms.FrozenTimeline
import WatchTogether.Rooms.Expiry
import WatchTogether.Repository.Store
import WatchTogether.Rooms.Persisted
import WatchTogether.Realtime.Handler
import WatchTogether.Realtime.GhostMembers
import WatchTogether.Realtime.Removal
import WatchTogether.Web.DriftCorrector
import WatchTogether.Web.SyncController
import WatchTogether.Web.Aim
import WatchTogether.Realtime.Heartbeat
import WatchTogether.Web.Starts
import WatchTogether.Web.Schedule
import WatchTogether.Web.Suspension
import WatchTogether.Rooms.Codes
import WatchTogether.Rooms.CrashPoints
import WatchTogether.Rooms.Creation
import WatchTogether.Chat.Sending
import WatchTogether.Web.LiveBroadcastOverlay
import WatchTogether.Lib.JsonText
import WatchTogether.Lib.Program
import WatchTogether.Uploads.Service
import WatchTogether.Rooms.BufferingIntent
import WatchTogether.Uploads.Limits
import WatchTogether.Uploads.Retry
import WatchTogether.Lib.Pool
import WatchTogether.Lib.Base64
import WatchTogether.Lib.CallLog
import WatchTogether.Repository.Database
import WatchTogether.Uploads.Lifecycle
import WatchTogether.Realtime.HostBuffering
import WatchTogether.Accounts.Service
import WatchTogether.Accounts.SuperAdmin
import WatchTogether.Accounts.Sessions
import WatchTogether.Accounts.Credentials
import WatchTogether.Accounts.Logout
import WatchTogether.Accounts.Edits
import WatchTogether.Realtime.Revocation
import WatchTogether.Rooms.HostRow
import WatchTogether.Rooms.Invites
import WatchTogether.Rooms.InviteBudget
import WatchTogether.Rooms.ClosedRooms
import WatchTogether.Rooms.OpenMedia
import WatchTogether.Lib.Double
import WatchTogether.Web.Upload
import WatchTogether.Web.UploadProtocol
import WatchTogether.Rooms.InviteAtomicity
import WatchTogether.Lib.Truncation
import WatchTogether.Rooms.ExactTimeline
import WatchTogether.Rooms.TimelineLaw
import WatchTogether.Web.PlaybackModel
import WatchTogether.Rooms.Restart
import WatchTogether.Accounts.RemoteIP
import WatchTogether.Web.RoomView
import WatchTogether.Rooms.MemberList
import WatchTogether.Lib.Timers
import WatchTogether.Web.ClockSynchronizer
import WatchTogether.Web.WebSocketClient
import WatchTogether.Web.ClientLifecycle
import WatchTogether.Web.ClientConnection
import WatchTogether.Web.ClientCommands
import WatchTogether.Lib.Mutex
import WatchTogether.Rooms.Registry
import WatchTogether.Rooms.OneActor
import WatchTogether.Web.DriftLoop
import WatchTogether.Web.ClockEstimate
import WatchTogether.Realtime.ClockPing
import WatchTogether.Web.Starvation
import WatchTogether.Uploads.Completion
import WatchTogether.Lib.TokenBucket
import WatchTogether.Security.Limiter
import WatchTogether.Lib.KeysetPaging
import WatchTogether.Chat.Messages
import WatchTogether.Chat.Paging
import WatchTogether.Web.ChatLog
import WatchTogether.Rooms.AnchorRefresh
import WatchTogether.Rooms.RoomRows
import WatchTogether.Rooms.DeletedRooms
import WatchTogether.Rooms.ClosedMemory
import WatchTogether.Realtime.Endings
import WatchTogether.Realtime.Closes
import WatchTogether.Realtime.Wiring
import WatchTogether.Realtime.GivingUp
import WatchTogether.Lib.InsertionSet
import WatchTogether.Web.RoomBroadcastStream
import WatchTogether.Web.ChatComposer
import WatchTogether.Rooms.InviteExpiry
import WatchTogether.Lib.Interrupted
import WatchTogether.Database.Migrate
import WatchTogether.Lib.Wildcard
import WatchTogether.Lib.OffsetPaging
import WatchTogether.Accounts.AdminUsers
import WatchTogether.Realtime.ReadLoop
import WatchTogether.Web.ClientFrames
import WatchTogether.Realtime.Exchange
import WatchTogether.Realtime.ExchangeSides
import WatchTogether.Realtime.Acknowledgements
import WatchTogether.Accounts.Passwords
import WatchTogether.Accounts.SetPasswords
import WatchTogether.Web.MediaTickets
import WatchTogether.Web.Together
