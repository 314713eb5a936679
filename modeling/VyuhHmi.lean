import VyuhHmi.Foundation.Transition
import VyuhHmi.Foundation.Observation
import VyuhHmi.Foundation.CommonOrder
import VyuhHmi.Foundation.Lineage
import VyuhHmi.Foundation.PrefixCode
import VyuhHmi.Foundation.BroadcastReader
import VyuhHmi.Foundation.ThreadPool
import VyuhHmi.Foundation.RowTable
import VyuhHmi.Foundation.Evolution
import VyuhHmi.Foundation.TokenBucket
import VyuhHmi.Foundation.ListUpdate
import VyuhHmi.Foundation.EventMap
import VyuhHmi.Foundation.KeyedView
import VyuhHmi.Foundation.Window
import VyuhHmi.Foundation.Grouping
import VyuhHmi.Foundation.ChannelLog
import VyuhHmi.Foundation.Calendar
import VyuhHmi.Foundation.FixedWidth
import VyuhHmi.Foundation.Rfc3339
import VyuhHmi.Models
import VyuhHmi.Alarm.Store
import VyuhHmi.Alarm.Monitor
import VyuhHmi.Alarm.Lifecycle
import VyuhHmi.Alarm.History
import VyuhHmi.Alarm.Coverage
import VyuhHmi.Alarm.Hysteresis
import VyuhHmi.Alarm.Attribution
import VyuhHmi.Alarm.Consistency
import VyuhHmi.Alarm.Interleaving
import VyuhHmi.Batch.Record
import VyuhHmi.Batch.Tracking
import VyuhHmi.Batch.Lifecycle
import VyuhHmi.Batch.Running
import VyuhHmi.Batch.Plant
import VyuhHmi.Batch.Cyclic
import VyuhHmi.Auth.Claims
import VyuhHmi.Auth.Users
import VyuhHmi.Auth.Throttle
import VyuhHmi.Auth.Tokens
import VyuhHmi.Audit.Trail
import VyuhHmi.Auth.Sessions
import VyuhHmi.Auth.Access
import VyuhHmi.Auth.Identity
import VyuhHmi.Auth.FailedLogins
import VyuhHmi.Auth.LoginAlone
import VyuhHmi.Auth.Lockout
import VyuhHmi.Auth.Disclosure
import VyuhHmi.Device.Runtime
import VyuhHmi.Device.Handlers
import VyuhHmi.Device.Steps
import VyuhHmi.Device.Routing
import VyuhHmi.Device.WriteAccess
import VyuhHmi.Device.LockProgress
import VyuhHmi.Device.TaskOwnership
import VyuhHmi.Device.WriteAudit
import VyuhHmi.Device.Performed
import VyuhHmi.Device.Sequential
import VyuhHmi.Device.Persistence
import VyuhHmi.Device.Restart
import VyuhHmi.Device.SavedDevices
import VyuhHmi.OpcUa.Variant
import VyuhHmi.OpcUa.Client
import VyuhHmi.OpcUa.Readings
import VyuhHmi.Device.Channels
import VyuhHmi.Device.Clients
import VyuhHmi.Device.PollingLoop
import VyuhHmi.Device.ConnectionStatus
import VyuhHmi.Device.RegisterRanges
import VyuhHmi.Device.TaskPanics
import VyuhHmi.Device.AddedDevices
import VyuhHmi.OpcUa.Freshness
import VyuhHmi.Server.Routes
import VyuhHmi.Server.JsonText
import VyuhHmi.Server.Accounts
import VyuhHmi.Server.AccountRecord
import VyuhHmi.Server.Signatures
import VyuhHmi.Server.AuditTrail
import VyuhHmi.Server.Limiter
import VyuhHmi.Server.RateLimit
import VyuhHmi.Server.Checks
import VyuhHmi.Server.Stream
import VyuhHmi.Server.Delivery
import VyuhHmi.Server.AuthTimeout
import VyuhHmi.Server.Export
import VyuhHmi.Server.Queries
import VyuhHmi.Server.TimeSeries
import VyuhHmi.Server.HistoryStore
import VyuhHmi.Server.Recording
import VyuhHmi.App.Dashboard
import VyuhHmi.App.Display
import VyuhHmi.App.LiveDisplay
import VyuhHmi.App.LiveHistory
import VyuhHmi.App.CachedAlarms
import VyuhHmi.App.Severity
import VyuhHmi.App.Onset
import VyuhHmi.App.Controls
import VyuhHmi.App.WebSocket
import VyuhHmi.App.ConnectionAlarm
import VyuhHmi.App.History
import VyuhHmi.App.Inactivity
import VyuhHmi.App.LogoutWarning
import VyuhHmi.App.SignedStop
import VyuhHmi.App.Shell
import VyuhHmi.Simulator.Reactor
import VyuhHmi.Simulator.Updates
import VyuhHmi.Simulator.Phases
import VyuhHmi.Simulator.Setpoints
import VyuhHmi.Simulator.OpcUaSim
import VyuhHmi.Simulator.OpcUaBatches
