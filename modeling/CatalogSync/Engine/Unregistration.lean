import CatalogSync.Engine.Tick

/-!
# Unregistration

A service is unregistered by whoever holds its guard, so never while a tick of it is under way. What it contributed to the catalog,
as far as the registry's last snapshot tells, is removed from there.
-/

namespace CatalogSync.Engine

/-- What there is to remove for an entry taken out of the registry. -/
def cleanupOf (s : Service) : ResourceChanges := (s.snapshot.map fun x => x.graph.removal).getD .empty

/-- Takes the entry of a URL out of the registry and its resources out of the catalog. -/
def cleanUp (url : AccessUrl) : Program TickResult := do
  match ← Program.request (.remove url) with
  | none => return Tick.notRegistered url
  | some service =>
    let cleanup := cleanupOf service
    if cleanup.isEmpty then return .success (some cleanup)
    match ← Program.request (.apply url cleanup) with
    | .ok () => return .success (some cleanup)
    | .error e => return .recoverable (some (some cleanup)) [(SyncError.apply e).toFailure]

/-- Unregisters a service once nobody else is at work on it. -/
def unregister (url : AccessUrl) : Program TickResult := do
  let g ← Program.holdGuard url
  let r ← cleanUp url
  Program.release g
  return r

end CatalogSync.Engine
