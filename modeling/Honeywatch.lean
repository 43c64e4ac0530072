import Honeywatch.Foundation.Transition
import Honeywatch.Foundation.Coroutine
import Honeywatch.Foundation.Footprint
import Honeywatch.Foundation.Deque
import Honeywatch.Foundation.Text
import Honeywatch.Foundation.Utf8
import Honeywatch.Foundation.Digits
import Honeywatch.Foundation.FormEncoding
import Honeywatch.Foundation.FormRoundTrip
import Honeywatch.Foundation.Utf8Search
import Honeywatch.Foundation.Json
import Honeywatch.Foundation.JsonNumber
import Honeywatch.Foundation.JsonText
import Honeywatch.Foundation.JsonRoundTrip
import Honeywatch.Foundation.OrderBy
import Honeywatch.Foundation.OrderedDict
import Honeywatch.Foundation.Tally
import Honeywatch.Foundation.GroupBy
import Honeywatch.Foundation.Buckets
import Honeywatch.Foundation.Levels
import Honeywatch.Redis.Keyspace
import Honeywatch.Redis.Mixed
import Honeywatch.Redis.Stream
import Honeywatch.Collector.Failures
import Honeywatch.Collector.Events
import Honeywatch.Collector.Encoding
import Honeywatch.Collector.Publish
import Honeywatch.Collector.Logging
import Honeywatch.Collector.Naturality
import Honeywatch.Collector.Sequential
import Honeywatch.Collector.SharedClient
import Honeywatch.Collector.Consume
import Honeywatch.Honeypot.Base
import Honeywatch.Honeypot.Interleaving
import Honeywatch.Honeypot.Conservation
import Honeywatch.Honeypot.AtMostOnce
import Honeywatch.Honeypot.EmissionOrder
import Honeywatch.Honeypot.EmitTotal
import Honeywatch.Honeypot.Answers
import Honeywatch.Honeypot.Naturality
import Honeywatch.Honeypot.Http
import Honeywatch.Honeypot.FormExtraction
import Honeywatch.Honeypot.Recording
import Honeywatch.Honeypot.BodyReader
import Honeywatch.Honeypot.Ssh
import Honeywatch.Honeypot.Survival
import Honeywatch.Honeypot.LoginLogs
import Honeywatch.Honeypot.Connection
import Honeywatch.Honeypot.AttemptLimit
import Honeywatch.Honeypot.Accounting
import Honeywatch.Honeypot.Keeping
import Honeywatch.Honeypot.Shutdown
import Honeywatch.Honeypot.Supervisor
import Honeywatch.Honeypot.FlushLoops
import Honeywatch.Honeypot.GivingUp
import Honeywatch.Honeypot.Manager
import Honeywatch.Db.Models
import Honeywatch.Db.Calendar
import Honeywatch.Detection.Classifier
import Honeywatch.Detection.Severity
import Honeywatch.Detection.IpContext
import Honeywatch.Detection.Soundness
import Honeywatch.Detection.Counting
import Honeywatch.Detection.Delay
import Honeywatch.Detection.Backfill
import Honeywatch.Detection.Resumption
import Honeywatch.Detection.Uninterrupted
import Honeywatch.Detection.Cumulative
import Honeywatch.Detection.Separation
import Honeywatch.Detection.ShippedRules
import Honeywatch.Honeypot.Evidence
import Honeywatch.Honeypot.BareConnections
import Honeywatch.Honeypot.PayloadSearch
import Honeywatch.Honeypot.AdminPaths
import Honeywatch.Honeypot.CredentialLimit
import Honeywatch.Honeypot.ReportedPorts
import Honeywatch.Honeypot.LoginCredentials
import Honeywatch.Tasks.Worker
import Honeywatch.Tasks.Naturality
import Honeywatch.Tasks.Pipeline
import Honeywatch.Tasks.Renaming
import Honeywatch.Tasks.Likeness
import Honeywatch.Tasks.PasswordLogs
import Honeywatch.Tasks.Delivery
import Honeywatch.Tasks.Recovery
import Honeywatch.Tasks.Redelivery
import Honeywatch.Tasks.Acknowledged
import Honeywatch.Tasks.Consuming
import Honeywatch.Analysis.Ip
import Honeywatch.Analysis.GeoIp
import Honeywatch.Analysis.GeoIpFailures
import Honeywatch.Api.Period
import Honeywatch.Api.Attacks
import Honeywatch.Api.RiskRanking
import Honeywatch.Api.RiskHistory
import Honeywatch.Api.Counters
import Honeywatch.Api.Profile
import Honeywatch.Api.Dashboard
import Honeywatch.Api.Timeline
import Honeywatch.Api.Countries
import Honeywatch.Api.GeoRoutes
import Honeywatch.Api.IpGeo
import Honeywatch.Api.Reading
import Honeywatch.Frontend.EventList
import Honeywatch.Frontend.CountryColumn
import Honeywatch.Frontend.CountryPolling
import Honeywatch.Frontend.LoginScreen
import Honeywatch.Honeypot.Holding
import Honeywatch.Tasks.Provenance
import Honeywatch.Tasks.EndToEnd
import Honeywatch.Tasks.RunWorker
import Honeywatch.Tasks.Stopping
import Honeywatch.Foundation.Base64
import Honeywatch.Api.Authentication
import Honeywatch.Frontend.SignedIn
import Honeywatch.Frontend.Paging
import Honeywatch.Frontend.ClickThrough
import Honeywatch.Frontend.Snapshots
import Honeywatch.Tasks.Ordering
import Honeywatch.Detection.Alongside
import Honeywatch.Detection.Growth
import Honeywatch.Detection.Memory
import Honeywatch.Detection.Undisturbed
