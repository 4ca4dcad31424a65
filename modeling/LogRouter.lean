import LogRouter.Json.Read
import LogRouter.Json.Write
import LogRouter.Json.Merge
import LogRouter.Query.Path
import LogRouter.Syslog
import LogRouter.Template
import LogRouter.Time.Instant
import LogRouter.Text.Utf8
import LogRouter.Text.Base64
import LogRouter.Text.Identifier
import LogRouter.Lines
import LogRouter.Sink.Options
import LogRouter.Metrics.Statsd
import LogRouter.Cli
import LogRouter.Dispatch.Script
import LogRouter.Config.Load
import LogRouter.Rules.Report
import LogRouter.Main
import LogRouter.Time.Reading
import LogRouter.Proofs.Envelope
import LogRouter.Proofs.Syslog
import LogRouter.Proofs.Dispatch.Capacity
import LogRouter.Proofs.Dispatch.Ledger
import LogRouter.Proofs.Dispatch.Shutdown
import LogRouter.Proofs.Decimal
import LogRouter.Proofs.QueryPath
import LogRouter.Proofs.Lines
import LogRouter.Proofs.Tester
import LogRouter.Proofs.Placeholder
import LogRouter.Proofs.Merge
import LogRouter.Proofs.Template
import LogRouter.Proofs.Compile
import LogRouter.Proofs.GroupNames
import LogRouter.Proofs.Fragment
import LogRouter.Proofs.Clock
import LogRouter.Proofs.KeyOrder
import LogRouter.Proofs.Endpoint
import LogRouter.Proofs.JsonRead
import LogRouter.Proofs.Search
