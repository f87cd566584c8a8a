import CatalogSync.AccessUrl
import CatalogSync.Pipeline.Failure

/-!
# Errors of synchronization

What can go wrong at a remote service, at the catalog, in the registry and around them. Every error has one text and is either
fatal for the work it arises in or not; as a failure of a pipeline it is fatal or a warning accordingly.
-/

namespace CatalogSync

/-- Why nothing could be fetched from a service. -/
inductive FetchError where
  | unreachable (reason : String)
  | tls (reason : String)
  | status (code : Nat)
  | decode (reason : String)
  deriving DecidableEq, Repr, Inhabited

/-- The wording of a fetch error. -/
def FetchError.message : FetchError → String
  | unreachable reason => "Service unreachable: " ++ reason
  | tls reason => "TLS failure: " ++ reason
  | status code => "Unexpected response status " ++ toString code
  | decode reason => "Invalid response body: " ++ reason

/-- Why the catalog did not take a change set. -/
inductive ApplyError where
  | rejected (reason : String)
  | unavailable (reason : String)
  deriving DecidableEq, Repr, Inhabited

/-- The wording of an apply error. -/
def ApplyError.message : ApplyError → String
  | rejected reason => "Catalog rejected change set: " ++ reason
  | unavailable reason => "Catalog unavailable: " ++ reason

/-- Why the registry did not change. -/
inductive RegistryError where
  /-- The service is not, or no longer, registered. -/
  | notRegistered (url : AccessUrl)
  /-- Another writer put in a snapshot first. -/
  | snapshotConflict (url : AccessUrl)
  deriving DecidableEq, Repr, Inhabited

namespace RegistryError

/-- The wording of a registry error. -/
def message : RegistryError → String
  | notRegistered url => "Service " ++ url.text ++ " is not registered"
  | snapshotConflict url => "Snapshot of service " ++ url.text ++ " was replaced concurrently"

/-- Whether a registry error ends the work on the service. -/
def isFatal : RegistryError → Bool
  | notRegistered _ => false
  | snapshotConflict _ => true

end RegistryError

/-- An error raised while services are synchronized. -/
inductive SyncError where
  | configuration (reason : String)
  /-- Settings that could not be loaded. -/
  | settings (reason : String)
  | secretNotFound (name : String)
  | fetch (error : FetchError)
  | apply (error : ApplyError)
  | registry (error : RegistryError)
  | model (error : ModelError)
  deriving DecidableEq, Repr

namespace SyncError

/-- The wording of an error. -/
def message : SyncError → String
  | configuration reason => "Invalid configuration: " ++ reason
  | settings reason => "Failed to load configuration: " ++ reason
  | secretNotFound name => "Secret not found for alias '" ++ name ++ "'"
  | fetch e => "Fetch failed: " ++ e.message
  | apply e => "Catalog update failed: " ++ e.message
  | registry e => "Registry error: " ++ e.message
  | model e => e.message

/-- Whether an error has to stop the work it arises in. -/
def isFatal : SyncError → Bool
  | configuration _ | settings _ => true
  | secretNotFound _ | fetch _ | apply _ => false
  | registry e => e.isFatal
  | model e => e.isFatal

/-- An error as a failure of a pipeline. -/
def toFailure (e : SyncError) : Failure := .ofSeverity (if e.isFatal then .fatal else .warning) e.message

end SyncError

end CatalogSync
