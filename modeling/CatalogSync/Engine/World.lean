import CatalogSync.Catalog
import CatalogSync.Engine.Permits
import CatalogSync.Engine.Program

/-!
# The world of the engine

Everything that programs share: the clock, the registry, the catalog, the secrets, the marks of services in flight, the permits,
and the tasks that were started or have ended. `World.perform` answers the requests that the world itself can answer; those to
the clients and to the catalog are answered from outside.
-/

namespace CatalogSync.Engine

/-- The state that programs share. -/
structure World where
  /-- The time in milliseconds. -/
  now : Nat
  registry : Registry
  catalog : Catalog
  secrets : SecretStore
  /-- The URLs marked as in flight. -/
  inFlight : List AccessUrl
  /-- The guards that are held. -/
  guards : List Guard
  /-- The number of guards given out so far. -/
  guardCount : Nat
  /-- The number of releases that those who wait were woken by. -/
  releases : Nat
  permits : Permits
  /-- The number of snapshots made so far. -/
  snapshotCount : Nat
  /-- The number of tasks started so far. -/
  taskCount : Nat
  /-- The jobs whose tasks have not begun to run. -/
  spawned : List (Nat × Job)
  /-- What ticks in tasks of their own came to, until someone asks. -/
  finished : List (Nat × Except String TickResult)
  /-- What the sink was told, with the time. -/
  reports : List (Nat × String × Failure)

namespace World

/-- The world before anything has happened. -/
def initial (permits : Permits) : World where
  now := 0
  registry := .empty
  catalog := .empty
  secrets := .empty
  inFlight := []
  guards := []
  guardCount := 0
  releases := 0
  permits := permits
  snapshotCount := 0
  taskCount := 0
  spawned := []
  finished := []
  reports := []

/-- Marks a URL as in flight: the guard, unless it was marked. -/
def tryMark (w : World) (url : AccessUrl) : Option Guard × World :=
  if w.inFlight.contains url then (none, w)
  else
    let g : Guard := ⟨w.guardCount, url⟩
    (some g, { w with inFlight := url :: w.inFlight, guards := g :: w.guards, guardCount := w.guardCount + 1 })

/-- Takes a guard's mark away. -/
def unmark (w : World) (g : Guard) : World :=
  { w with inFlight := w.inFlight.filter (· ≠ g.url), guards := w.guards.filter (· ≠ g) }

/-- Wakes everyone who waits for a release. -/
def wake (w : World) : World := { w with releases := w.releases + 1 }

/-- Makes a graph a new object. -/
def snapshot (w : World) (graph : Graph) : Snapshot × World :=
  (⟨w.snapshotCount, graph⟩, { w with snapshotCount := w.snapshotCount + 1 })

/-- Starts a task: its number. -/
def spawn (w : World) (job : Job) : Nat × World :=
  (w.taskCount, { w with taskCount := w.taskCount + 1, spawned := w.spawned ++ [(w.taskCount, job)] })

/-- Notes what a task's tick came to. -/
def finish (w : World) (task : Nat) (r : Except String TickResult) : World := { w with finished := w.finished ++ [(task, r)] }

/-- Stores a snapshot in place of the expected one. -/
def swap (w : World) (url : AccessUrl) (expected : Option Snapshot) (new : Snapshot) :
    Except RegistryError (Option Snapshot) × World :=
  match w.registry.swap w.now url expected new with
  | .ok (previous, registry) => (.ok previous, { w with registry })
  | .error e => (.error e, w)

/-- Applies changes to the catalog. -/
def apply (w : World) (url : AccessUrl) (changes : ResourceChanges) : World :=
  { w with catalog := w.catalog.apply url changes }

/-- The answer to a request and the world after it. There is none while the request has to wait, nor to requests that clients and
the catalog answer. -/
def perform (w : World) : (r : Request) → Option (r.Answer × World)
  | .now => some (w.now, w)
  | .sleep t => if t ≤ w.now then some ((), w) else none
  | .service url => some (w.registry.get? url, w)
  | .services => some (w.registry.getAll, w)
  | .register s =>
    let (isNew, registry) := w.registry.put s
    some (isNew, { w with registry })
  | .remove url =>
    let (old, registry) := w.registry.remove url
    some (old, { w with registry })
  | .swap url expected new => some (w.swap url expected new)
  | .snapshot graph => some (w.snapshot graph)
  | .resolve name => some (w.secrets.resolve name, w)
  | .tryMark url => some (w.tryMark url)
  | .unmark g => some ((), w.unmark g)
  | .wake => some ((), w.wake)
  | .report pipeline f => some ((), { w with reports := w.reports ++ [(w.now, pipeline, f)] })
  | .spawn job => some (w.spawn job)
  | .join task =>
    match w.finished.lookup task with
    | some r => some (r, { w with finished := w.finished.filter fun x => x.1 ≠ task })
    | none => none
  | .queue =>
    let (ticket, permits) := w.permits.ask
    some (ticket, { w with permits })
  | .permit ticket => if w.permits.granted ticket then some ((), w) else none
  | .leave => some ((), { w with permits := w.permits.release })
  | .fetch _ _ | .advertised _ _ | .apply _ _ => none

end World

end CatalogSync.Engine
