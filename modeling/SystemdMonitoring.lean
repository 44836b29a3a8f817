import SystemdMonitoring.Lib.Except
import SystemdMonitoring.Lib.Strip
import SystemdMonitoring.Lib.Text
import SystemdMonitoring.Lib.TextParts
import SystemdMonitoring.Lib.Reader
import SystemdMonitoring.Lib.SocketAddr
import SystemdMonitoring.Lib.Json
import SystemdMonitoring.Lib.JsonMask
import SystemdMonitoring.Lib.Loss
import SystemdMonitoring.Lib.Prog
import SystemdMonitoring.Lib.Pool
import SystemdMonitoring.Lib.Coupling
import SystemdMonitoring.Lib.Replay
import SystemdMonitoring.Lib.Refinement
import SystemdMonitoring.Lib.Policy
import SystemdMonitoring.Lib.Related
import SystemdMonitoring.Lib.Credit
import SystemdMonitoring.Lib.Erasure
import SystemdMonitoring.Lib.Serial
import SystemdMonitoring.Lib.Progress
import SystemdMonitoring.Lib.Arrange
import SystemdMonitoring.Lib.Scan
import SystemdMonitoring.Lib.Counting
import SystemdMonitoring.Lib.Grouping
import SystemdMonitoring.Lib.Paging
import SystemdMonitoring.Lib.TokenBucket
import SystemdMonitoring.Lib.BucketOptimality
import SystemdMonitoring.Lib.DateTime
import SystemdMonitoring.Lib.Calendar
import SystemdMonitoring.Lib.Rfc3339
import SystemdMonitoring.Lib.Rfc3339Order
import SystemdMonitoring.Lib.Gregorian
import SystemdMonitoring.Lib.DateRange
import SystemdMonitoring.Errors
import SystemdMonitoring.RateLimit
import SystemdMonitoring.RetryAfter
import SystemdMonitoring.RateLimitRaces
import SystemdMonitoring.RateLimitOptimal
import SystemdMonitoring.Config
import SystemdMonitoring.Systemd.Types
import SystemdMonitoring.Domain.Utils
import SystemdMonitoring.Domain.LogQuery
import SystemdMonitoring.Systemd.Journal
import SystemdMonitoring.Systemd.Logs
import SystemdMonitoring.Systemd.FullScan
import SystemdMonitoring.Host
import SystemdMonitoring.Systemd.Units
import SystemdMonitoring.Systemd.Client
import SystemdMonitoring.Systemd.Snapshot
import SystemdMonitoring.Systemd.Listings
import SystemdMonitoring.Systemd.Enrichment
import SystemdMonitoring.Systemd.Dependencies
import SystemdMonitoring.Systemd.Transitions
import SystemdMonitoring.Systemd.Messages
import SystemdMonitoring.Systemd.JournalFaults
import SystemdMonitoring.Systemd.Faults
import SystemdMonitoring.Podman.Argv
import SystemdMonitoring.Podman.ArgvFrame
import SystemdMonitoring.Podman.Inspect
import SystemdMonitoring.Podman.Client
import SystemdMonitoring.Podman.Operand
import SystemdMonitoring.Mcp.Rpc
import SystemdMonitoring.Domain.Responses
import SystemdMonitoring.Domain.Resources
import SystemdMonitoring.Domain.Tools.Services
import SystemdMonitoring.Domain.Tools.Timers
import SystemdMonitoring.Domain.Tools.Inspect
import SystemdMonitoring.Domain.Tools.Logs
import SystemdMonitoring.Domain.Tools
import SystemdMonitoring.Domain.Course
import SystemdMonitoring.Domain.LogRequests
import SystemdMonitoring.Provider
import SystemdMonitoring.Confinement
import SystemdMonitoring.Budget
import SystemdMonitoring.Startup
import SystemdMonitoring.Systemd.Diagnostics
import SystemdMonitoring.Domain.Rejections
import SystemdMonitoring.Degradation
import SystemdMonitoring.Domain.SinceLastStart
import SystemdMonitoring.Domain.ListedRows
import SystemdMonitoring.Domain.TimerOrder
import SystemdMonitoring.Domain.TimerComparator
import SystemdMonitoring.Domain.TimerTimestamps
import SystemdMonitoring.Domain.TimeArithmetic
import SystemdMonitoring.Domain.ServiceViews
import SystemdMonitoring.Domain.Summaries
import SystemdMonitoring.Domain.LogGroups
import SystemdMonitoring.Domain.Catalogue
import SystemdMonitoring.Mcp.Server
import SystemdMonitoring.Mcp.Versions
import SystemdMonitoring.Mcp.Redaction
import SystemdMonitoring.Mcp.Audit
import SystemdMonitoring.Http.Handlers
import SystemdMonitoring.Http.App
import SystemdMonitoring.Http.Deployment
import SystemdMonitoring.Http.Serial
import SystemdMonitoring.Http.AccessLog
import SystemdMonitoring.Http.Status
import SystemdMonitoring.Http.Secrecy
import SystemdMonitoring.Http.Refinement
import SystemdMonitoring.Http.Uptime
import SystemdMonitoring.Http.Confinement
import SystemdMonitoring.Http.AuditTrail
import SystemdMonitoring.Http.Budget
import SystemdMonitoring.Http.Answered
import SystemdMonitoring.Http.TurnedAway
import SystemdMonitoring.Http.Service
import SystemdMonitoring.Http.Diagnostics
