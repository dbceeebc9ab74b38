import Governance.Ambient
import Governance.Api.Answer
import Governance.Api.Call
import Governance.Api.Envelope
import Governance.Api.Payload
import Governance.Audit.Backend
import Governance.Audit.Batch
import Governance.Audit.Codec
import Governance.Audit.Entry
import Governance.Audit.Journal
import Governance.Audit.Memory
import Governance.Audit.Queue
import Governance.Config.Address
import Governance.Config.Basic
import Governance.Config.Source
import Governance.Console.Audit
import Governance.Console.Basic
import Governance.Console.Database
import Governance.Console.Gateway
import Governance.Console.Http
import Governance.Console.Metrics
import Governance.Console.Scheduler
import Governance.Console.Service
import Governance.Console.Setup
import Governance.Decision.Basic
import Governance.Decision.Engine
import Governance.Digest.Sha256
import Governance.Gateway.Basic
import Governance.Gateway.Serving
import Governance.Gateway.Setup
import Governance.Health
import Governance.Http.Message
import Governance.Json.Coded
import Governance.Json.Printer
import Governance.Json.Reader
import Governance.Listing.Basic
import Governance.Metrics.Collector
import Governance.Metrics.Series
import Governance.Pattern.Reader
import Governance.Pipeline.Basic
import Governance.Pipeline.Lifecycle
import Governance.Pipeline.Provider
import Governance.Pipeline.Scheduler
import Governance.Policy.Codec
import Governance.Policy.Matching
import Governance.Policy.Validation
import Governance.Program
import Governance.Proofs.Api.Addressing
import Governance.Proofs.Api.Attribution
import Governance.Proofs.Api.Disclosure
import Governance.Proofs.Api.DryRun
import Governance.Proofs.Audit.Batches
import Governance.Proofs.Audit.Conservation
import Governance.Proofs.Audit.Faultless
import Governance.Proofs.Audit.Provenance
import Governance.Proofs.Audit.Survival
import Governance.Proofs.Audit.Traced
import Governance.Proofs.Audit.Watched
import Governance.Proofs.Audit.Written
import Governance.Proofs.Decimal.Doubles
import Governance.Proofs.Decimal.Operations
import Governance.Proofs.Decimal.Rounding
import Governance.Proofs.Decimal.Shortest
import Governance.Proofs.Decision.Blocking
import Governance.Proofs.Decision.Meaning
import Governance.Proofs.Decision.Padding
import Governance.Proofs.Gateway.Deadline
import Governance.Proofs.Gateway.Entries
import Governance.Proofs.Gateway.Runs
import Governance.Proofs.Gateway.Shutdown
import Governance.Proofs.Json.Canonical
import Governance.Proofs.Json.Records
import Governance.Proofs.Json.RoundTrip
import Governance.Proofs.Listing.Order
import Governance.Proofs.Metrics.Collector
import Governance.Proofs.Metrics.ErrorRate
import Governance.Proofs.Metrics.Percentile
import Governance.Proofs.Pattern.Spans
import Governance.Proofs.Pipeline.Accounting
import Governance.Proofs.Pipeline.Confidentiality
import Governance.Proofs.Pipeline.Ending
import Governance.Proofs.Pipeline.Enforcement
import Governance.Proofs.Pipeline.Exit
import Governance.Proofs.Pipeline.Footprint
import Governance.Proofs.Pipeline.Scheduler
import Governance.Proofs.Pipeline.Spawning
import Governance.Proofs.Policy.Codec
import Governance.Proofs.Policy.Faults
import Governance.Proofs.Policy.Numbers
import Governance.Proofs.Policy.Operators
import Governance.Proofs.Policy.Validity
import Governance.Proofs.Policy.Written
import Governance.Proofs.Program.Acting
import Governance.Proofs.Program.Obeying
import Governance.Proofs.Program.Runs
import Governance.Proofs.Service.Calls
import Governance.Proofs.Service.Concealment
import Governance.Proofs.Service.Failing
import Governance.Proofs.Service.Identity
import Governance.Proofs.Service.Immutability
import Governance.Proofs.Service.InStep
import Governance.Proofs.Service.Isolation
import Governance.Proofs.Service.Limit
import Governance.Proofs.Service.LoadOrder
import Governance.Proofs.Service.Looking
import Governance.Proofs.Service.LostRevisions
import Governance.Proofs.Service.Naming
import Governance.Proofs.Service.Overlap
import Governance.Proofs.Service.Pages
import Governance.Proofs.Service.Repetition
import Governance.Proofs.Service.RiskScore
import Governance.Proofs.Service.RoundTrip
import Governance.Proofs.Service.Trial
import Governance.Proofs.Service.Turns
import Governance.Proofs.Service.Validity
import Governance.Proofs.Sql.AuditRows
import Governance.Proofs.Sql.Bracketing
import Governance.Proofs.Sql.History
import Governance.Proofs.Sql.Newest
import Governance.Proofs.Sql.Paging
import Governance.Proofs.Sql.Parameters
import Governance.Proofs.Sql.Places
import Governance.Proofs.Sql.PolicyRows
import Governance.Proofs.Sql.PolicyStore
import Governance.Proofs.Sql.Updating
import Governance.Proofs.Store.Coherence
import Governance.Proofs.Store.Deeds
import Governance.Proofs.Store.Edits
import Governance.Proofs.Store.Holdings
import Governance.Proofs.Store.Identity
import Governance.Proofs.Store.Imports
import Governance.Proofs.Store.Isolation
import Governance.Proofs.Store.Keyed
import Governance.Proofs.Store.LastWriter
import Governance.Proofs.Store.Lifetimes
import Governance.Proofs.Store.Likeness
import Governance.Proofs.Store.LostRevisions
import Governance.Proofs.Store.Naming
import Governance.Proofs.Store.NewestFirst
import Governance.Proofs.Store.Outlook
import Governance.Proofs.Store.Runs
import Governance.Proofs.Store.Transaction
import Governance.Proofs.Store.Transitions
import Governance.Proofs.Store.Updates
import Governance.Proofs.Store.Validity
import Governance.Proofs.Text.Bytes
import Governance.Proofs.Text.Lowercase
import Governance.Proofs.Time.Calendar
import Governance.Proofs.Time.Text
import Governance.Proofs.Uuid
import Governance.Request.Codec
import Governance.Service.Basic
import Governance.Service.Gate
import Governance.Service.Trial
import Governance.Sql.AuditStore
import Governance.Sql.AuditTable
import Governance.Sql.Call
import Governance.Sql.Command
import Governance.Sql.ConnectionUrl
import Governance.Sql.PolicyStore
import Governance.Sql.PolicyTable
import Governance.Sql.Row
import Governance.Sql.Script
import Governance.Store.Basic
import Governance.Store.Keyed
import Governance.Store.Memory
import Governance.Text.Basic
import Governance.Text.Category
import Governance.Text.Folding
import Governance.Text.Lowercase
import Governance.Text.Percent
import Governance.Text.Script
import Governance.Time.Instant
import Governance.Toml.Reader
import Governance.Toml.Scalar
import Governance.Toml.Text
import Governance.Transfer.Basic
import Governance.Uuid
