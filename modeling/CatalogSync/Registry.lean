import CatalogSync.ChangeSet
import CatalogSync.Auth

/-!
# The registry of services

The registry keeps one entry for each access URL. An entry's snapshot is replaced by `swap` only, and only by a writer who still
knows the snapshot that is there; snapshots are told apart by identity, not by what is in them.
-/

namespace CatalogSync

/-- A graph kept as one object. Two snapshots are the same object exactly if they have one id. -/
structure Snapshot where
  id : Nat
  graph : Graph
  deriving Inhabited

/-- A remote service. -/
structure Service where
  url : AccessUrl
  auth : AuthMethod
  /-- The graph of the last tick that stored one. -/
  snapshot : Option Snapshot
  /-- The time at which the snapshot was stored. -/
  lastSynced : Option Nat
  /-- The registry the service was discovered through. -/
  origin : Option AccessUrl
  deriving Inhabited

namespace Service

/-- A service without credentials that was never synchronized. -/
def fresh (url : AccessUrl) : Service := ⟨url, .none, none, none, none⟩

/-- The service with a method of authentication. -/
def withAuth (s : Service) (auth : AuthMethod) : Service := { s with auth }

/-- The service marked as discovered through a registry. -/
def withOrigin (s : Service) (registry : AccessUrl) : Service := { s with origin := some registry }

/-- The text that describes a service, given how URLs, graphs and times are described. -/
def describe (url : AccessUrl → String) (graph : Graph → String) (time : Nat → String) (s : Service) : String :=
  "Service \x7b access_url: " ++ url s.url ++ ", auth: " ++ s.auth.describe ++ ", snapshot: " ++
    AuthSettings.describePart (s.snapshot.map fun x => graph x.graph) ++ ", last_synced: " ++
    AuthSettings.describePart (s.lastSynced.map time) ++ ", origin: " ++ AuthSettings.describePart (s.origin.map url) ++ " \x7d"

end Service

/-- Services by their URLs, in order of registration. -/
structure Registry where
  entries : List (AccessUrl × Service)
  deriving Inhabited

namespace Registry

/-- The registry without services. -/
def empty : Registry := ⟨[]⟩

/-- The entry of a URL. -/
def get? (r : Registry) (url : AccessUrl) : Option Service := r.entries.lookup url

/-- Whether a URL has an entry. -/
def contains (r : Registry) (url : AccessUrl) : Bool := (r.get? url).isSome

/-- The number of entries. -/
def size (r : Registry) : Nat := r.entries.length

/-- All services, ordered by URL. -/
def getAll (r : Registry) : List Service :=
  (r.entries.map Prod.snd).mergeSort fun a b => (compare a.url b.url).isLE

/-- The registry with another service in place of the one at its URL. -/
def replace (r : Registry) (s : Service) : Registry :=
  ⟨r.entries.map fun e => if e.1 == s.url then (e.1, s) else e⟩

/-- Registers a service unless its URL has an entry: whether it did. -/
def put (r : Registry) (s : Service) : Bool × Registry :=
  if r.contains s.url then (false, r) else (true, ⟨r.entries ++ [(s.url, s)]⟩)

/-- Replaces the entry at a service's URL if there is one: whether it did. -/
def update (r : Registry) (s : Service) : Bool × Registry :=
  if r.contains s.url then (true, r.replace s) else (false, r)

/-- Takes the entry of a URL out. -/
def remove (r : Registry) (url : AccessUrl) : Option Service × Registry :=
  (r.get? url, ⟨r.entries.filter fun e => e.1 != url⟩)

/-- Stores a snapshot at a time if the entry's snapshot is still the expected object: the one it replaces. -/
def swap (r : Registry) (now : Nat) (url : AccessUrl) (expected : Option Snapshot) (new : Snapshot) :
    Except RegistryError (Option Snapshot × Registry) :=
  match r.get? url with
  | none => .error (.notRegistered url)
  | some s =>
    if s.snapshot.map Snapshot.id = expected.map Snapshot.id then
      .ok (s.snapshot, r.replace { s with snapshot := some new, lastSynced := some now })
    else .error (.snapshotConflict url)

end Registry

end CatalogSync
