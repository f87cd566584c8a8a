import CatalogSync.Engine.Unregistration

/-!
# Discovery

A registry advertises URLs of services. Those that are new are registered with the registry as their origin and with its
authentication; those that came from it and are no longer advertised are unregistered. Other services are left alone.
-/

namespace CatalogSync.Engine

namespace Discovery

/-- The service that a registry advertises under a URL. -/
def discovered (registry : AccessUrl) (auth : AuthMethod) (url : AccessUrl) : Service :=
  ((Service.fresh url).withAuth auth).withOrigin registry

/-- Registers services under the URLs that have no entry yet: those URLs. -/
def registerNew (registry : AccessUrl) (auth : AuthMethod) : List AccessUrl → Program (List AccessUrl)
  | [] => return []
  | url :: rest => do
    let isNew ← Program.request (.register (discovered registry auth url))
    let added ← registerNew registry auth rest
    return if isNew then url :: added else added

/-- The URLs of services that came from a registry and are not advertised. -/
def stale (registry : AccessUrl) (advertised : List AccessUrl) (services : List Service) : List AccessUrl :=
  ((services.filter fun s => s.origin == some registry).map Service.url).filter fun url => !advertised.contains url

/-- Unregisters services one after the other. -/
def unregisterAll : List AccessUrl → Program Unit
  | [] => return ()
  | url :: rest => do
    let _ ← unregister url
    unregisterAll rest

/-- Brings the registered services in line with the URLs that a registry advertises. -/
def reconcile (registry : AccessUrl) (auth : AuthMethod) (advertised : List AccessUrl) : Program DiscoveryChanges := do
  let added ← registerNew registry auth advertised.eraseDups
  let gone := stale registry advertised (← Program.request .services)
  unregisterAll gone
  return ⟨added, gone⟩

end Discovery

/-- Fetches what a registry advertises and brings the registered services in line with it. -/
def discover (registry : AccessUrl) (auth : AuthMethod) : Program (Except SyncError DiscoveryChanges) := do
  match ← auth.headers fun name => Program.request (.resolve name) with
  | .error e => return .error e
  | .ok headers =>
    match ← Program.request (.advertised registry headers) with
    | .error e => return .error (.fetch e)
    | .ok urls => return .ok (← Discovery.reconcile registry auth urls)

end CatalogSync.Engine
