import UptimeIntake.Attempts.CleanupTask
import UptimeIntake.Attempts.Table
import UptimeIntake.Config.Basic
import UptimeIntake.Config.Document
import UptimeIntake.Config.Load
import UptimeIntake.Ed25519.Curve
import UptimeIntake.Ed25519.Verify
import UptimeIntake.Environment
import UptimeIntake.Hash.Blake2b
import UptimeIntake.Hash.Sha512
import UptimeIntake.Hash.Words
import UptimeIntake.Http.Body
import UptimeIntake.Http.Request
import UptimeIntake.Http.Response
import UptimeIntake.Http.Service
import UptimeIntake.Json.Reader
import UptimeIntake.Json.Record
import UptimeIntake.Json.Text
import UptimeIntake.Json.Token
import UptimeIntake.Json.Value
import UptimeIntake.Main
import UptimeIntake.Net.IpAddress
import UptimeIntake.Net.SocketAddress
import UptimeIntake.Octets
import UptimeIntake.Pipeline
import UptimeIntake.Program.Disk
import UptimeIntake.Program.Download
import UptimeIntake.Program.Server
import UptimeIntake.Startup
import UptimeIntake.Storage.Fanout
import UptimeIntake.Storage.FileSystem
import UptimeIntake.Storage.FileTree
import UptimeIntake.Storage.Location
import UptimeIntake.Storage.Lookup
import UptimeIntake.Storage.Memory
import UptimeIntake.Storage.ObjectSet
import UptimeIntake.Storage.Paths
import UptimeIntake.Storage.Save
import UptimeIntake.Storage.Store
import UptimeIntake.Submission.Error
import UptimeIntake.Submission.Payload
import UptimeIntake.Submission.Request
import UptimeIntake.Telemetry.Config
import UptimeIntake.Telemetry.Filter
import UptimeIntake.Telemetry.Pattern.Basic
import UptimeIntake.Telemetry.Pattern.Reader
import UptimeIntake.Text.Alphanumeric
import UptimeIntake.Text.Base64
import UptimeIntake.Text.Blank
import UptimeIntake.Text.Decimal
import UptimeIntake.Text.Hex
import UptimeIntake.Text.Real
import UptimeIntake.Text.Split
import UptimeIntake.Text.Utf8
import UptimeIntake.Time.Calendar
import UptimeIntake.Time.Instant
import UptimeIntake.Time.Rfc3339
import UptimeIntake.Time.Ticker
import UptimeIntake.Whitelist.Document
import UptimeIntake.Whitelist.Fetch
import UptimeIntake.Whitelist.Refresher
import UptimeIntake.Whitelist.Source
import UptimeIntake.Whitelist.Timeline
import UptimeIntake.Wiring
import UptimeIntake.Proofs.Attempts.Run
import UptimeIntake.Proofs.Attempts.TrailingWindow
import UptimeIntake.Proofs.Attempts.OutOfOrder
import UptimeIntake.Proofs.Pipeline.Checks
import UptimeIntake.Proofs.Pipeline.Stages
import UptimeIntake.Proofs.Pipeline.Refusals
import UptimeIntake.Proofs.Pipeline.Concurrent
import UptimeIntake.Proofs.Pipeline.StoredObjects
import UptimeIntake.Proofs.Json.Documents
import UptimeIntake.Proofs.Json.Grammar
import UptimeIntake.Proofs.Json.Quoting
import UptimeIntake.Proofs.Json.Records
import UptimeIntake.Proofs.Json.Scanning
import UptimeIntake.Proofs.Octets
import UptimeIntake.Proofs.Storage.Accounting
import UptimeIntake.Proofs.Storage.Interleaving
import UptimeIntake.Proofs.Storage.Paths
import UptimeIntake.Proofs.Submission.Fields
import UptimeIntake.Proofs.Submission.Payload
import UptimeIntake.Proofs.Submission.Spellings
import UptimeIntake.Proofs.Text.Base64
import UptimeIntake.Proofs.Text.Decimal
import UptimeIntake.Proofs.Text.Hex
import UptimeIntake.Proofs.Text.Split
import UptimeIntake.Proofs.Text.Trim
import UptimeIntake.Proofs.Text.Utf8
import UptimeIntake.Proofs.Time.Calendar
import UptimeIntake.Proofs.Time.Instant
import UptimeIntake.Proofs.Time.Rfc3339
import UptimeIntake.Proofs.Pipeline.Freshness
import UptimeIntake.Proofs.Pipeline.Verdicts
import UptimeIntake.Proofs.Storage.FileTree
import UptimeIntake.Proofs.Storage.Location
import UptimeIntake.Proofs.Storage.PathMap
import UptimeIntake.Proofs.Storage.ObjectPlaces
import UptimeIntake.Proofs.Storage.FileSystem
import UptimeIntake.Proofs.Storage.Retention
import UptimeIntake.Proofs.Whitelist.StopSignal
import UptimeIntake.Proofs.Whitelist.Document
import UptimeIntake.Proofs.Whitelist.Fetch
import UptimeIntake.Proofs.Whitelist.Snapshot
import UptimeIntake.Proofs.Http.Screening
import UptimeIntake.Proofs.Wiring
import UptimeIntake.Proofs.Storage.SharedStore
import UptimeIntake.Proofs.Time.Gregorian
import UptimeIntake.Proofs.Storage.DayFolders
import UptimeIntake.Proofs.Storage.FileEffects
import UptimeIntake.Proofs.Storage.Atomicity
import UptimeIntake.Proofs.Storage.Routes
import UptimeIntake.Proofs.Storage.Confinement
import UptimeIntake.Proofs.Attempts.LiveRecords
import UptimeIntake.Proofs.Submission.SentTexts
import UptimeIntake.Proofs.Time.LocalTimes
import UptimeIntake.Proofs.Submission.CreationTimes
import UptimeIntake.Proofs.Storage.HeldBackErrors
import UptimeIntake.Proofs.Whitelist.Retries
import UptimeIntake.Proofs.Whitelist.RefreshTimes
import UptimeIntake.Proofs.Net.IpAddress
import UptimeIntake.Proofs.Config.Settings
import UptimeIntake.Proofs.Config.Documents
import UptimeIntake.Proofs.Config.Overrides
