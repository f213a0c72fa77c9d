import KisAutoTrading.Theory.Runs
import KisAutoTrading.Theory.Table
import KisAutoTrading.Theory.Uuid
import KisAutoTrading.Theory.Json
import KisAutoTrading.Theory.Topic
import KisAutoTrading.Infrastructure.Platform
import KisAutoTrading.Infrastructure.Messaging
import KisAutoTrading.Infrastructure.Outbox
import KisAutoTrading.Modules.Models
import KisAutoTrading.Infrastructure.Database
import KisAutoTrading.Modules.Signal
import KisAutoTrading.Worker.MessageHandler
import KisAutoTrading.Theory.Replica
import KisAutoTrading.Signal.Replication
import KisAutoTrading.Theory.RowSession
import KisAutoTrading.Signal.ConcurrentRequests
import KisAutoTrading.Signal.ConcurrentProjection
import KisAutoTrading.Modules.Notification
import KisAutoTrading.Signal.Delivery
import KisAutoTrading.Signal.FanOut
import KisAutoTrading.Infrastructure.DurableJobs
import KisAutoTrading.Routers.DurableJobs
import KisAutoTrading.Jobs.Ledger
import KisAutoTrading.Jobs.StateMachine
import KisAutoTrading.Jobs.Stranding
import KisAutoTrading.Infrastructure.RequestReplay
import KisAutoTrading.Modules.Account
import KisAutoTrading.Modules.BrokerageAccount
import KisAutoTrading.Replay.UserIsolation
import KisAutoTrading.Infrastructure.OutboxRelay
import KisAutoTrading.Outbox.Starvation
import KisAutoTrading.Modules.Portfolio
import KisAutoTrading.Outbox.Routing
import KisAutoTrading.Infrastructure.RabbitMQ
import KisAutoTrading.Outbox.Relay
import KisAutoTrading.Infrastructure.ExternalProvider
import KisAutoTrading.Infrastructure.KisTokenCoordinator
import KisAutoTrading.Token.SingleFlight
import KisAutoTrading.Token.CacheDelete
import KisAutoTrading.Theory.Transaction
import KisAutoTrading.Handlers.Atomicity
import KisAutoTrading.Theory.Base64
import KisAutoTrading.Infrastructure.SessionStore
import KisAutoTrading.Sessions.Index
import KisAutoTrading.Modules.Identity
import KisAutoTrading.Identity.OperatorGrant
import KisAutoTrading.Identity.ShardPlacement
import KisAutoTrading.Replay.Fencing
import KisAutoTrading.Modules.News
import KisAutoTrading.Application.DurableJobHandler
import KisAutoTrading.Jobs.NewsRetry
import KisAutoTrading.Theory.CreateOnce
import KisAutoTrading.Handlers.FirstCommit
import KisAutoTrading.Jobs.IndexRequest
import KisAutoTrading.Jobs.NewsSystem
import KisAutoTrading.Jobs.NewsCoverage
import KisAutoTrading.Jobs.RetryScheduling
import KisAutoTrading.Theory.SortedBy
import KisAutoTrading.Handlers.CaptureReplay
import KisAutoTrading.Sessions.Credentials
import KisAutoTrading.Signal.RecordedSignals
import KisAutoTrading.Theory.Digits
import KisAutoTrading.Infrastructure.KisMarketData
import KisAutoTrading.Infrastructure.KisDomesticAccount
import KisAutoTrading.Routers.OperatorMarketData
import KisAutoTrading.Kis.ResponseErrors
import KisAutoTrading.Token.ResponseParsing
import KisAutoTrading.Kis.CacheTransparency
import KisAutoTrading.Kis.MalformedEntries
import KisAutoTrading.Kis.BalancePages
import KisAutoTrading.Theory.Joins
import KisAutoTrading.Kis.CacheKeys
import KisAutoTrading.Infrastructure.FakeKeyValueStore
import KisAutoTrading.Token.ExpiryMargin
import KisAutoTrading.Theory.RankFusion
import KisAutoTrading.Theory.Split
import KisAutoTrading.Theory.JsonText
import KisAutoTrading.Modules.Search
import KisAutoTrading.Search.Fusion
import KisAutoTrading.Modules.SearchIndexers
import KisAutoTrading.Search.BulkFraming
import KisAutoTrading.Theory.Timestamp
import KisAutoTrading.Modules.YahooNews
import KisAutoTrading.News.MalformedArticles
import KisAutoTrading.Modules.Passwords
import KisAutoTrading.Identity.PasswordHashes
import KisAutoTrading.Modules.MarketHistory
import KisAutoTrading.MarketHistory.CandleUpserts
import KisAutoTrading.Theory.CharClass
import KisAutoTrading.Kis.StockCodes
import KisAutoTrading.Theory.JsonReader
import KisAutoTrading.Infrastructure.Realtime
import KisAutoTrading.Realtime.Stream
import KisAutoTrading.Realtime.Frames
import KisAutoTrading.Realtime.Hints
import KisAutoTrading.Theory.LeaseLock
import KisAutoTrading.Infrastructure.FakeDistributedLock
import KisAutoTrading.Locks.OneHolder
import KisAutoTrading.Fakes.LockAgreement
import KisAutoTrading.Fakes.CacheAgreement
import KisAutoTrading.Identity.AuditedAccess
import KisAutoTrading.Theory.JsonSorted
import KisAutoTrading.Worker.MessageBody
import KisAutoTrading.Airflow.JobDag
import KisAutoTrading.Jobs.DagRuns
