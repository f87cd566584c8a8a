import CatalogSync.Auth
import CatalogSync.Number.Word

/-!
# Settings

How often services are synchronized, how long one tick may take, how many may run at once, whether only submodels are kept, and
which services and registries are known from the start.
-/

namespace CatalogSync

/-- A service or registry as written in settings. -/
structure Endpoint where
  url : AccessUrl
  auth : AuthSettings
  deriving Inhabited

namespace Endpoint

/-- The fields of an endpoint seen while one is read. -/
structure Parts where
  url : Option AccessUrl
  auth : AuthSettings

/-- The fields of an endpoint in order, given how its parts are read. -/
def fields (url : Decoder AccessUrl) : List (Decoder.Field Parts) := [
  ⟨"url", false, fun v p => do return { p with url := ← url v }⟩,
  ⟨"auth", true, fun v p => do return { p with auth := ← AuthSettings.decode v }⟩]

/-- Reads an endpoint. -/
def decode : Decoder Endpoint := fun v => do
  let p ← Decoder.record "EndpointConfig" (fields AccessUrl.decode) ⟨none, .none⟩ v
  return ⟨← Decoder.need "url" p.url, p.auth⟩

end Endpoint

/-- The settings of the synchronizer and its scheduler. -/
structure Settings where
  /-- Seconds between two rounds. -/
  syncPeriodSecs : Nat
  /-- Seconds after which a tick is abandoned. -/
  tickTimeoutSecs : Nat
  /-- Whether all roots but submodels are dropped. -/
  onlySubmodels : Bool
  /-- How many ticks may run at once. -/
  maxConcurrentTicks : Nat
  /-- Services registered at the start. -/
  services : List Endpoint
  /-- Registries whose services are discovered in each round. -/
  registries : List Endpoint
  deriving Inhabited

namespace Settings

/-- The settings where nothing else is said. -/
def default : Settings := ⟨50, 30, false, 16, [], []⟩

/-- A setting that must not be zero. -/
def positive (name : String) (n : Nat) : Except SyncError Unit :=
  if n = 0 then .error (.configuration (name ++ " must be greater than zero")) else .ok ()

/-- An error for the first number that is zero. -/
def validate (s : Settings) : Except SyncError Unit := do
  positive "sync_period_secs" s.syncPeriodSecs
  positive "tick_timeout_secs" s.tickTimeoutSecs
  positive "max_concurrent_ticks" s.maxConcurrentTicks

/-- The fields of settings in order. -/
def fields : List (Decoder.Field Settings) := [
  ⟨"sync_period_secs", true, fun v s => do return { s with syncPeriodSecs := ← Decoder.word Word.count "u64" v }⟩,
  ⟨"tick_timeout_secs", true, fun v s => do return { s with tickTimeoutSecs := ← Decoder.word Word.count "u64" v }⟩,
  ⟨"only_submodels", true, fun v s => do return { s with onlySubmodels := ← Decoder.bool v }⟩,
  ⟨"max_concurrent_ticks", true, fun v s => do return { s with maxConcurrentTicks := ← Decoder.word Word.count "usize" v }⟩,
  ⟨"services", true, fun v s => do return { s with services := ← Decoder.list Endpoint.decode v }⟩,
  ⟨"registries", true, fun v s => do return { s with registries := ← Decoder.list Endpoint.decode v }⟩]

/-- Reads settings. -/
def decode : Decoder Settings := Decoder.record "SyncConfig" fields default

end Settings

end CatalogSync
