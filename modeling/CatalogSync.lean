import CatalogSync.AccessUrl
import CatalogSync.Auth
import CatalogSync.Catalog
import CatalogSync.ChangeSet
import CatalogSync.Engine.Discovery
import CatalogSync.Engine.Interleaving
import CatalogSync.Engine.Marking
import CatalogSync.Engine.Permits
import CatalogSync.Engine.Program
import CatalogSync.Engine.Report
import CatalogSync.Engine.Round
import CatalogSync.Engine.Tick
import CatalogSync.Engine.Unregistration
import CatalogSync.Engine.World
import CatalogSync.Json.Basic
import CatalogSync.Json.Decode
import CatalogSync.Json.Parser
import CatalogSync.Json.Printer
import CatalogSync.ModelError
import CatalogSync.Number.Binary64
import CatalogSync.Number.Extended
import CatalogSync.Number.Shortest
import CatalogSync.Number.Word
import CatalogSync.Pipeline.Basic
import CatalogSync.Pipeline.Failure
import CatalogSync.Pipeline.Outcome
import CatalogSync.Pipeline.Step
import CatalogSync.Proofs.AccessUrl
import CatalogSync.Proofs.Catalog.History
import CatalogSync.Proofs.Catalog.Patch
import CatalogSync.Proofs.Catalog.Shelf
import CatalogSync.Proofs.Credentials
import CatalogSync.Proofs.Engine.Abandonment
import CatalogSync.Proofs.Engine.Account
import CatalogSync.Proofs.Engine.Aftermath
import CatalogSync.Proofs.Engine.Alone
import CatalogSync.Proofs.Engine.Bootstrap
import CatalogSync.Proofs.Engine.Calculus
import CatalogSync.Proofs.Engine.Convergence
import CatalogSync.Proofs.Engine.Custody
import CatalogSync.Proofs.Engine.Discretion
import CatalogSync.Proofs.Engine.Duty
import CatalogSync.Proofs.Engine.Endpoints
import CatalogSync.Proofs.Engine.Errands
import CatalogSync.Proofs.Engine.Exclusion
import CatalogSync.Proofs.Engine.Grading
import CatalogSync.Proofs.Engine.Inauguration
import CatalogSync.Proofs.Engine.Independence
import CatalogSync.Proofs.Engine.Joins
import CatalogSync.Proofs.Engine.Launch
import CatalogSync.Proofs.Engine.Ledger
import CatalogSync.Proofs.Engine.Likeness
import CatalogSync.Proofs.Engine.Mirror
import CatalogSync.Proofs.Engine.Numbers
import CatalogSync.Proofs.Engine.Operations
import CatalogSync.Proofs.Engine.Permits
import CatalogSync.Proofs.Engine.Progress
import CatalogSync.Proofs.Engine.Pruning
import CatalogSync.Proofs.Engine.Reconciliation
import CatalogSync.Proofs.Engine.Regime
import CatalogSync.Proofs.Engine.Removal
import CatalogSync.Proofs.Engine.Replay
import CatalogSync.Proofs.Engine.Restitution
import CatalogSync.Proofs.Engine.Restriction
import CatalogSync.Proofs.Engine.Rounds
import CatalogSync.Proofs.Engine.Sink
import CatalogSync.Proofs.Engine.Steadiness
import CatalogSync.Proofs.Engine.Stint
import CatalogSync.Proofs.Engine.Succession
import CatalogSync.Proofs.Engine.Supply
import CatalogSync.Proofs.Engine.Termination
import CatalogSync.Proofs.Engine.Throttling
import CatalogSync.Proofs.Engine.Ticks
import CatalogSync.Proofs.Engine.Trace
import CatalogSync.Proofs.Engine.Verdict
import CatalogSync.Proofs.Engine.Vigilance
import CatalogSync.Proofs.Engine.Vocabulary
import CatalogSync.Proofs.Engine.Wakefulness
import CatalogSync.Proofs.Engine.Warrant
import CatalogSync.Proofs.Engine.Weave
import CatalogSync.Proofs.Engine.Work
import CatalogSync.Proofs.Json.Equality
import CatalogSync.Proofs.Pipeline.Course
import CatalogSync.Proofs.Pipeline.Gathering
import CatalogSync.Proofs.Pipeline.Grading
import CatalogSync.Proofs.Pipeline.Merging
import CatalogSync.Proofs.Pipeline.Nesting
import CatalogSync.Proofs.Pipeline.Observation
import CatalogSync.Proofs.Pipeline.Reports
import CatalogSync.Proofs.Pipeline.Successes
import CatalogSync.Proofs.Registry
import CatalogSync.Proofs.Registry.Directory
import CatalogSync.Proofs.Rehearsal
import CatalogSync.Proofs.Resource.Difference
import CatalogSync.Proofs.Resource.Encoding
import CatalogSync.Proofs.Resource.Kinds
import CatalogSync.Proofs.Resource.Order
import CatalogSync.Proofs.Resource.Rerooting
import CatalogSync.Proofs.Resource.Retention
import CatalogSync.Proofs.Resource.Siblings
import CatalogSync.Proofs.Resource.Traversal
import CatalogSync.Proofs.Resource.Uniqueness
import CatalogSync.Proofs.Secrecy
import CatalogSync.Proofs.Settings.Files
import CatalogSync.Proofs.Settings.Layering
import CatalogSync.Proofs.Settings.Merging
import CatalogSync.Proofs.Settings.Parts
import CatalogSync.Proofs.Table
import CatalogSync.Registry
import CatalogSync.Registry.Callers
import CatalogSync.Rehearsal.Machine
import CatalogSync.Rehearsal.Script
import CatalogSync.Rehearsal.Session
import CatalogSync.Rehearsal.Steps
import CatalogSync.Resource.Basic
import CatalogSync.Resource.Graph
import CatalogSync.Resource.Reference
import CatalogSync.Settings.Basic
import CatalogSync.Settings.Layers
import CatalogSync.Settings.Load
import CatalogSync.Settings.Value
import CatalogSync.SyncError
import CatalogSync.Text.Base64
import CatalogSync.Text.Blank
import CatalogSync.Text.CharMap
import CatalogSync.Text.CharTable
import CatalogSync.Text.Composition
import CatalogSync.Text.Direction
import CatalogSync.Text.Lowercase
import CatalogSync.Text.Quoted
import CatalogSync.Toml.Basic
import CatalogSync.Toml.Datetime
import CatalogSync.Toml.Document
import CatalogSync.Toml.Line
import CatalogSync.Toml.Token
import CatalogSync.Url.Basic
import CatalogSync.Url.Domain
import CatalogSync.Url.Ipv4
import CatalogSync.Url.Ipv6
import CatalogSync.Url.Mapping
import CatalogSync.Url.Parser
import CatalogSync.Url.Percent
import CatalogSync.Url.Punycode
