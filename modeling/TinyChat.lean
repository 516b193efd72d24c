import TinyChat.Lib.Transition
import TinyChat.Lib.IntSpan
import TinyChat.Lib.LinkedRing
import TinyChat.Message.Queue
import TinyChat.Message.QueueInvariant
import TinyChat.Message.QueueRuns
import TinyChat.Rmq.Stream
import TinyChat.Rmq.OffsetSafety
import TinyChat.Lib.AsyncLock
import TinyChat.Worker.Pacer
import TinyChat.Worker.PacerSteps
import TinyChat.Worker.PacerSafety
import TinyChat.Front.UserSession
import TinyChat.Worker.Convergence
import TinyChat.Worker.Redelivery
import TinyChat.Storage.Inbox
import TinyChat.Worker.Freshness
import TinyChat.Auth.Token
import TinyChat.Gateway.Handshake
import TinyChat.Gateway.Session
import TinyChat.Gateway.SessionTables
import TinyChat.Gateway.SessionSafety
import TinyChat.Gateway.LoginLock
import TinyChat.Gateway.LoginLockSafety
import TinyChat.Gateway.LoginLockRelease
import TinyChat.Push.Channel
import TinyChat.Push.Feedback
import TinyChat.Push.Coverage
import TinyChat.Push.Wakeup
import TinyChat.Push.Manager
import TinyChat.Push.AckLoop
import TinyChat.Push.Delivery
import TinyChat.Push.Provenance
import TinyChat.Push.Authenticity
import TinyChat.Gateway.Negotiation
import TinyChat.Gateway.Logins
import TinyChat.Gateway.LoginSteps
import TinyChat.Gateway.LoginTables
import TinyChat.Gateway.SingleSession
import TinyChat.Gateway.FieldCommands
import TinyChat.Gateway.FieldOwner
import TinyChat.Gateway.OnlineRegistry
import TinyChat.Worker.Outbox
import TinyChat.Rmq.Producer
import TinyChat.Upstream.Deduplication
import TinyChat.Gateway.Deliver
import TinyChat.Front.Reader
import TinyChat.Front.Acknowledgement
import TinyChat.Push.Collector
import TinyChat.Push.Ranges
import TinyChat.Push.Observation
import TinyChat.Push.Outcome
import TinyChat.Redis.Counter
import TinyChat.Storage.Session
import TinyChat.Storage.Blocks
import TinyChat.Storage.BucketSafety
import TinyChat.Storage.BucketSize
import TinyChat.Storage.SessionRead
import TinyChat.Lib.ObjectPool
import TinyChat.Utils.Aggregator
import TinyChat.Utils.AggregatorInvariant
import TinyChat.Utils.ExactlyOnce
import TinyChat.Redis.Handlers
import TinyChat.Redis.Batch
import TinyChat.Redis.Client
import TinyChat.Redis.Store
import TinyChat.Redis.WriteBatch
import TinyChat.Redis.ReadBatch
import TinyChat.Redis.Rollbacks
import TinyChat.Redis.Pool
import TinyChat.Redis.PoolBounds
import TinyChat.Redis.Service
import TinyChat.Redis.ServiceSteps
import TinyChat.Redis.WorkerRoles
import TinyChat.Redis.TaskLife
import TinyChat.Redis.TakenTasks
import TinyChat.Redis.WriterRollbacks
import TinyChat.Redis.IpLimiter
import TinyChat.Redis.Monitor
import TinyChat.Redis.TokenBucket
import TinyChat.Rpc.StubRepository
import TinyChat.Rpc.RepositoryConsistency
import TinyChat.Rpc.EtcdReports
import TinyChat.Lib.ChangeLog
import TinyChat.Manager.Discovery
import TinyChat.Manager.DiscoverySteps
import TinyChat.Manager.Ledger
import TinyChat.Manager.Tracking
import TinyChat.Manager.EtcdMirror
import TinyChat.Manager.Rebuild
import TinyChat.Snowflake.Allocation
import TinyChat.Snowflake.WorkerIds
import TinyChat.Snowflake.UniqueIds
import TinyChat.Lib.Custody
import TinyChat.Postgres.Pool
import TinyChat.Postgres.PoolCustody
import TinyChat.Postgres.PoolWakeups
import TinyChat.Auth.Refresh
import TinyChat.Auth.RefreshRaces
import TinyChat.Lib.Rows
import TinyChat.User.Friends
import TinyChat.User.FriendSteps
import TinyChat.User.FriendSymmetry
import TinyChat.User.FriendCount
import TinyChat.User.Confirmation
import TinyChat.User.Announcement
import TinyChat.User.Consent
import TinyChat.Rmq.ContiguousOffset
import TinyChat.Worker.Watermark
import TinyChat.Gateway.SessionBinding
import TinyChat.Gateway.DeliverOutage
import TinyChat.Lib.Pairing
import TinyChat.Message.Stream
import TinyChat.Push.StreamHandler
import TinyChat.Rpc.LinkedStubs
import TinyChat.Rpc.LoadBalancer
import TinyChat.Lib.Totals
import TinyChat.Manager.Statistic
import TinyChat.Message.Receiver
import TinyChat.Message.Retransmission
import TinyChat.Manager.UsageAccuracy
import TinyChat.Front.ChatClient
import TinyChat.Front.AckLookup
import TinyChat.Front.InboxCursor
import TinyChat.Lib.Framing
import TinyChat.Manager.Dispatch
import TinyChat.Manager.EventDelivery
import TinyChat.Lib.Json
import TinyChat.Front.PulledSessions
import TinyChat.Front.MessageStore
import TinyChat.Multiprocess.Workers
import TinyChat.Multiprocess.WorkerNumbers
import TinyChat.Rmq.Consumer
import TinyChat.Lib.AsyncQueue
import TinyChat.Worker.FriendQueues
import TinyChat.Worker.FriendDeliveries
import TinyChat.Rmq.Connection
import TinyChat.User.Accounts
import TinyChat.Auth.Registration
import TinyChat.Auth.AccountHistory
import TinyChat.Auth.AccountRuns
import TinyChat.Auth.Routes
import TinyChat.User.FriendList
import TinyChat.Lib.Backlog
import TinyChat.Downstream.ReadModel
import TinyChat.Worker.Pipeline
import TinyChat.Worker.PipelineTasks
import TinyChat.Worker.PipelineCustody
import TinyChat.Worker.PipelineDrain
import TinyChat.Worker.PipelineOrigin
import TinyChat.Downstream.PullInbox
import TinyChat.Worker.PipelineInbox
import TinyChat.HttpGateway.Requests
import TinyChat.HttpGateway.Admission
import TinyChat.HttpGateway.Rates
import TinyChat.HttpGateway.FriendRoutes
import TinyChat.HttpGateway.Friendships
import TinyChat.HttpGateway.ListedFriends
import TinyChat.Relay.Origin
import TinyChat.Relay.Acknowledged
