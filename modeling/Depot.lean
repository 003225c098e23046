import Depot.Azure.Account
import Depot.Azure.Api
import Depot.Azure.Environment
import Depot.Azure.Manager
import Depot.Azure.Storage
import Depot.Azure.Token
import Depot.Backend
import Depot.Backoff
import Depot.Cluster.Api
import Depot.Cluster.Json
import Depot.Cluster.Object
import Depot.Cluster.Rest
import Depot.Cluster.Schema
import Depot.Cluster.Status
import Depot.Condition
import Depot.Connectors
import Depot.Credentials.Basic
import Depot.Credentials.Clouds
import Depot.Credentials.Resolver
import Depot.Decimal.Shortest
import Depot.Dict
import Depot.Error
import Depot.Filesystem.Storage
import Depot.Gcs.Api
import Depot.Gcs.Binding
import Depot.Gcs.Bucket
import Depot.Gcs.Rest
import Depot.Gcs.Storage
import Depot.Http
import Depot.Http.Target
import Depot.Infrastructure
import Depot.Json.Basic
import Depot.Json.Canonical
import Depot.Json.Decode
import Depot.Json.Lookup
import Depot.Json.Parser
import Depot.Json.Printer
import Depot.Json.Token
import Depot.Lifecycle
import Depot.Metrics
import Depot.Migration
import Depot.Naming
import Depot.Prog
import Depot.Registry
import Depot.Rehearsal.Answer
import Depot.Rehearsal.Azure
import Depot.Rehearsal.Blobs
import Depot.Rehearsal.Cluster
import Depot.Rehearsal.Fault
import Depot.Rehearsal.Gcs
import Depot.Rehearsal.Journal
import Depot.Rehearsal.Lifecycle
import Depot.Rehearsal.S3
import Depot.Rehearsal.Scenario
import Depot.Rehearsal.Script
import Depot.Rehearsal.State
import Depot.Rehearsal.Store
import Depot.Rehearsal.Swift
import Depot.Resource
import Depot.S3.Api
import Depot.S3.Bucket
import Depot.S3.Storage
import Depot.Spec
import Depot.Storage.Basic
import Depot.Storage.Session
import Depot.Swift.Api
import Depot.Swift.Container
import Depot.Swift.Rest
import Depot.Swift.Storage
import Depot.Text.Base64
import Depot.Text.Blank
import Depot.Text.Percent
import Depot.Text.Quoted
import Depot.Text.Unprintable
import Depot.Time.Calendar
import Depot.Time.Span
import Depot.Time.Timestamp
import Depot.Workload
import Depot.World
import Depot.Yaml.Node
import Depot.Yaml.Scalar
import Depot.Yaml.Tag
import Depot.Yaml.Token
import Depot.Yaml.Value
import Depot.Proofs.Acceptance
import Depot.Proofs.AccessKeys
import Depot.Proofs.Accounts
import Depot.Proofs.Addresses
import Depot.Proofs.Aggregation
import Depot.Proofs.Azure
import Depot.Proofs.Batches
import Depot.Proofs.Binding
import Depot.Proofs.Bookkeeping
import Depot.Proofs.Cancelling
import Depot.Proofs.Completion
import Depot.Proofs.Connecting
import Depot.Proofs.Containers
import Depot.Proofs.Contract
import Depot.Proofs.Convergence
import Depot.Proofs.Courses
import Depot.Proofs.Drift
import Depot.Proofs.Emptying
import Depot.Proofs.Ensuring
import Depot.Proofs.Execution
import Depot.Proofs.Expiry
import Depot.Proofs.Fields
import Depot.Proofs.Filesystem
import Depot.Proofs.Footprint
import Depot.Proofs.Gcs
import Depot.Proofs.Hardening
import Depot.Proofs.History
import Depot.Proofs.Labels
import Depot.Proofs.Ledger
import Depot.Proofs.Lifecycle
import Depot.Proofs.Migration
import Depot.Proofs.Moments
import Depot.Proofs.Naming
import Depot.Proofs.Observing
import Depot.Proofs.Operations
import Depot.Proofs.Ownership
import Depot.Proofs.Pacing
import Depot.Proofs.Persistence
import Depot.Proofs.Polling
import Depot.Proofs.Precedence
import Depot.Proofs.Printing
import Depot.Proofs.Provisioning
import Depot.Proofs.Rebuilding
import Depot.Proofs.Reclaiming
import Depot.Proofs.Removal
import Depot.Proofs.Renaming
import Depot.Proofs.Repeating
import Depot.Proofs.Rerunning
import Depot.Proofs.Resuming
import Depot.Proofs.S3
import Depot.Proofs.Securing
import Depot.Proofs.Sessions
import Depot.Proofs.Settling
import Depot.Proofs.Shelves
import Depot.Proofs.Sweeping
import Depot.Proofs.Swift
import Depot.Proofs.Tagging
import Depot.Proofs.Trace
import Depot.Proofs.Visibility
import Depot.Proofs.Wiring
