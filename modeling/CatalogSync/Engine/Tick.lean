import CatalogSync.Engine.Program
import CatalogSync.Pipeline.Basic

/-!
# Ticks

A tick brings one service into the catalog: its graph is fetched, compared with the snapshot in the registry, stored there in the
snapshot's place, and the changes are handed to the catalog. Each of these is a step of one pipeline; once a step has dropped what
the tick works on, the steps after it do nothing. The whole pipeline has to end within a time limit.
-/

namespace CatalogSync.Engine

/-- The phases of a tick, to which its failures are attributed. -/
inductive Phase where
  | fetching | diffing | updating | emitting
  deriving DecidableEq, Repr

/-- The written name of a phase. -/
def Phase.name : Phase → String
  | fetching => "fetching"
  | diffing => "diffing"
  | updating => "updating"
  | emitting => "emitting"

/-- How services are synchronized. -/
structure Synchronizer where
  /-- Whether all roots but submodels are dropped. -/
  onlySubmodels : Bool
  /-- How many milliseconds a tick may take. -/
  timeout : Nat
  deriving Inhabited

/-- The synchronizer that settings ask for. -/
def Synchronizer.ofSettings (onlySubmodels : Bool) (timeoutSecs : Nat) : Synchronizer := ⟨onlySubmodels, 1000 * timeoutSecs⟩

namespace Tick

/-- A step that ends with an error has no content. -/
def failed {α : Type} (e : SyncError) : Outcome (Option α) := .ofFailure none e.toFailure

/-- Fetches the graph of a service with its credentials. -/
def fetching : Step Timed Service (Option Fetched) where
  name := Phase.fetching.name
  apply s := do
    match ← s.auth.headers fun name => Timed.request (.resolve name) with
    | .error e => return failed e
    | .ok headers =>
      match ← Timed.request (.fetch s.url headers) with
      | .error reason => Timed.halt (.crashed reason)
      | .ok (.error e) => return failed (.fetch e)
      | .ok (.ok graph) => return .success (some ⟨s, graph⟩)

/-- Keeps only the roots of the given kinds. -/
def restricting (kinds : List ResourceKind) : Step Timed (Option Fetched) (Option Fetched) :=
  Step.ofFn Phase.fetching.name fun x => .success (x.map fun f => { f with graph := f.graph.retainKinds kinds })

/-- Compares a fetched graph with the snapshot in the registry. -/
def diffing : Step Timed (Option Fetched) (Option Diffed) where
  name := Phase.diffing.name
  apply
    | none => return .success none
    | some f => do
      match ← Timed.request (.service f.service.url) with
      | none => return failed (.registry (.notRegistered f.service.url))
      | some current =>
        match Graph.diff (current.snapshot.map Snapshot.graph) f.graph with
        | .error e => return failed (.model e)
        | .ok changes =>
          let new ← Timed.lift (Program.request (.snapshot f.graph))
          return .success (some ⟨f.service.url, current.snapshot, new, changes⟩)

/-- Stores the new snapshot in place of the one compared with. -/
def updating : Step Timed (Option Diffed) (Option Diffed) where
  name := Phase.updating.name
  apply
    | none => return .success none
    | some d => do
      match ← Timed.request (.swap d.url d.old d.new) with
      | .ok _ => return .success (some d)
      | .error e => return failed (.registry e)

/-- Hands the changes to the catalog, if there are any. An error of the catalog leaves the changes in the outcome. -/
def emitting : Step Timed (Option Diffed) (Option ResourceChanges) where
  name := Phase.emitting.name
  apply
    | none => return .success none
    | some d => do
      if d.changes.isEmpty then return .success (some d.changes)
      match ← Timed.request (.apply d.url d.changes) with
      | .ok () => return .success (some d.changes)
      | .error e => return .recoverable (some (some d.changes)) [(SyncError.apply e).toFailure]

/-- The sink of a tick's failures. -/
def sink (pipeline : String) (f : Failure) : Timed Unit := Timed.lift (Program.request (.report pipeline f))

/-- The name of a tick's pipeline. -/
def pipelineName : String := "service-sync"

/-- The first steps of a tick, which fetch the graph. -/
def fetchPipeline (onlySubmodels : Bool) : Pipeline Timed Service (Option Fetched) :=
  let fetch := (Pipeline.start pipelineName sink).step fetching (pure none)
  if onlySubmodels then fetch.step (restricting [.submodel]) (pure none) else fetch

/-- The steps of a tick. -/
def pipeline (onlySubmodels : Bool) : Pipeline Timed Service (Option ResourceChanges) :=
  (((fetchPipeline onlySubmodels).step diffing (pure none)).step updating (pure none)).step emitting (pure none)

/-- The outcome of work on a URL that is not registered. -/
def notRegistered (url : AccessUrl) : TickResult := .recoverable none [(SyncError.registry (.notRegistered url)).toFailure]

/-- The outcome of a tick that took longer than the given milliseconds. -/
def abandoned (timeout : Nat) : TickResult :=
  .recoverable none [.warning ("tick abandoned after " ++ toString timeout ++ "ms")]

end Tick

namespace Synchronizer

/-- The pipeline of a tick on a service under a deadline: what it came to, or why the client crashed. -/
def runPipeline (s : Synchronizer) (service : Service) : Program (Except String TickResult) := do
  let start : Nat ← Program.request .now
  match ← ((Tick.pipeline s.onlySubmodels).execute service).run (some (start + s.timeout)) with
  | .ok r => return .ok r
  | .error .expired => return .ok (Tick.abandoned s.timeout)
  | .error (.crashed reason) => return .error reason

/-- One tick of the service whose guard is held. The guard is given back however the tick ends. -/
def runTick (s : Synchronizer) (g : Guard) : Program (Except String TickResult) := do
  let r ← match ← Program.request (.service g.url) with
    | none => pure (.ok (Tick.notRegistered g.url))
    | some service => s.runPipeline service
  Program.release g
  return r

/-- One tick of a service, unless someone else is at work on it. -/
def synchronize (s : Synchronizer) (url : AccessUrl) : Program (Except String TickOutcome) := do
  match ← Program.request (.tryMark url) with
  | none => return .ok .skipped
  | some g => return (← s.runTick g).map .completed

end Synchronizer

end CatalogSync.Engine
