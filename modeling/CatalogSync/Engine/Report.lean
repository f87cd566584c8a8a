import CatalogSync.Pipeline.Outcome
import CatalogSync.Registry

/-!
# What the engine's operations give

A tick ends with the change set it emitted, if any. Ticks, unregistrations, discoveries and rounds report what became of them, and
a task that crashed reports why.
-/

namespace CatalogSync.Engine

/-- The right to work on a URL alone. Guards are told apart by their ids. -/
structure Guard where
  id : Nat
  url : AccessUrl
  deriving DecidableEq, Repr, Inhabited

/-- The outcome of a tick or of an unregistration, with the change set that was handed to the catalog. -/
abbrev TickResult := Outcome (Option ResourceChanges)

/-- What became of a tick that was asked for. -/
inductive TickOutcome where
  /-- Someone else was at work on the service. -/
  | skipped
  | completed (result : TickResult)
  deriving Inhabited

/-- The change set of a tick that was completed with one. -/
def TickOutcome.changes? : TickOutcome → Option ResourceChanges
  | skipped => none
  | completed r => r.content?.join

/-- The services that a discovery registered and unregistered. -/
abbrev DiscoveryChanges := ChangeSet AccessUrl AccessUrl

/-- A service with the graph just fetched from it. -/
structure Fetched where
  service : Service
  graph : Graph
  deriving Inhabited

/-- A fetched graph with its changes against the snapshot in the registry. -/
structure Diffed where
  url : AccessUrl
  /-- The snapshot that the changes lead from. -/
  old : Option Snapshot
  new : Snapshot
  changes : ResourceChanges
  deriving Inhabited

/-- Work that is done in a task of its own. -/
inductive Job where
  /-- A tick of a service whose guard is held. -/
  | tick (guard : Guard)
  /-- A round over all services. -/
  | round

/-- What a finished task reports. -/
inductive Report where
  /-- Whether a service was new. -/
  | registered (isNew : Bool)
  | ticked (result : TickResult)
  | asked (outcome : TickOutcome)
  | unregistered (result : TickResult)
  | discovered (result : Except SyncError DiscoveryChanges)
  | rounded (outcomes : List (AccessUrl × TickOutcome))
  | scheduled (outcome : Option TickOutcome)
  | held (guard : Guard)
  | fetched (result : Outcome (Option Fetched))
  | slept (now : Nat)
  /-- A collaborator crashed and took the task with it. -/
  | crashed (reason : String)
  deriving Inhabited

/-- What a tick in a task of its own came to, or why it crashed. -/
def Report.tick? : Report → Option (Except String TickResult)
  | ticked r => some (.ok r)
  | crashed reason => some (.error reason)
  | _ => none

end CatalogSync.Engine
