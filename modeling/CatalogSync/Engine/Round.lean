import CatalogSync.Engine.Discovery
import CatalogSync.Engine.Permits
import CatalogSync.Settings.Basic
import CatalogSync.Number.Word

/-!
# Rounds

A round first discovers services through the watched registries and then starts one tick for each registered service, each in a
task of its own. A tick takes the guard of its service before it queues for a permit, so a service whose tick is still queued is
skipped by the next round. Rounds are repeated by a loop, at a fixed period from its start.
-/

namespace CatalogSync.Engine

/-- A registry whose services are discovered in each round. -/
structure Watched where
  url : AccessUrl
  auth : AuthMethod
  deriving Inhabited

/-- What drives the rounds. -/
structure Scheduler where
  synchronizer : Synchronizer
  /-- Whether rounds begin with discovery. -/
  discovery : Bool
  /-- The watched registries, in order. -/
  watched : List Watched
  /-- The milliseconds between two rounds. -/
  period : Nat
  deriving Inhabited

/-- The largest number of permits there can be. -/
def Permits.most : Nat := Word.greatest / 8

/-- The given number of permits, or why there cannot be so many. -/
def Permits.create (n : Nat) : Except String Permits :=
  if n ≤ Permits.most then .ok (.ofNat n)
  else .error ("a semaphore may not have more than MAX_PERMITS permits (" ++ toString Permits.most ++ ")")

/-- The times at which rounds begin. -/
structure Loop where
  /-- The time of the next round. -/
  due : Nat
  period : Nat
  deriving DecidableEq, Repr, Inhabited

namespace Loop

/-- A loop that begins now, or why there is none with the given period. -/
def start (now period : Nat) : Except String Loop :=
  if period = 0 then .error "`period` must be non-zero." else .ok ⟨now, period⟩

/-- The loop after a round that began at the given time, which is not before the round was due: missed rounds are left out. -/
def next (l : Loop) (now : Nat) : Loop := { l with due := now + l.period - (now - l.due) % l.period }

end Loop

namespace Scheduler

/-- A scheduler that watches no registry. -/
def ofSettings (synchronizer : Synchronizer) (s : Settings) : Scheduler := ⟨synchronizer, false, [], 1000 * s.syncPeriodSecs⟩

/-- The scheduler that watches one more registry. -/
def watch (s : Scheduler) (url : AccessUrl) (auth : AuthMethod) : Scheduler := { s with watched := s.watched ++ [⟨url, auth⟩] }

/-- Registers the listed services one by one, up to one with unusable authentication. -/
def registerEndpoints (hasStore : Bool) : List Endpoint → Program (Except SyncError Unit)
  | [] => return .ok ()
  | e :: rest => do
    match e.auth.toMethod hasStore with
    | .error err => return .error err
    | .ok auth =>
      let _ ← Program.request (.register ((Service.fresh e.url).withAuth auth))
      registerEndpoints hasStore rest

/-- The scheduler that watches the listed registries too, unless one has unusable authentication. -/
def watchEndpoints (hasStore : Bool) (s : Scheduler) : List Endpoint → Except SyncError Scheduler
  | [] => .ok s
  | e :: rest => do watchEndpoints hasStore (s.watch e.url (← e.auth.toMethod hasStore)) rest

/-- Registers the services and watches the registries that settings list. -/
def withEndpoints (s : Scheduler) (settings : Settings) (hasStore : Bool) : Program (Except SyncError Scheduler) := do
  match ← registerEndpoints hasStore settings.services with
  | .error e => return .error e
  | .ok () => return watchEndpoints hasStore s settings.registries

/-- Starts the tick of a service in a task of its own, unless someone else is at work on the service: the task. -/
def startTick (url : AccessUrl) : Program (Option Nat) := do
  match ← Program.request (.tryMark url) with
  | none => return none
  | some g => return some (← Program.request (.spawn (.tick g)))

/-- The outcome of a tick whose task crashed. -/
def crashed (reason : String) : TickResult :=
  .fatal [.fatal ("tick task failed: task N panicked with message " ++ Text.quoted reason)]

/-- Waits for a tick that was started, if one was. -/
def finishTick : Option Nat → Program TickOutcome
  | none => return .skipped
  | some task => do
    match ← Program.request (.join task) with
    | .ok r => return .completed r
    | .error reason => return .completed (crashed reason)

/-- Starts ticks one after the other. -/
def startTicks : List Service → Program (List (AccessUrl × Option Nat))
  | [] => return []
  | s :: rest => do
    let task ← startTick s.url
    return (s.url, task) :: (← startTicks rest)

/-- Waits for ticks one after the other. -/
def finishTicks : List (AccessUrl × Option Nat) → Program (List (AccessUrl × TickOutcome))
  | [] => return []
  | (url, task) :: rest => do
    let outcome ← finishTick task
    return (url, outcome) :: (← finishTicks rest)

/-- Discovers services through registries one after the other; an error of one does not stop the others. -/
def discoverAll : List Watched → Program Unit
  | [] => return ()
  | w :: rest => do
    let _ ← discover w.url w.auth
    discoverAll rest

/-- One round: discovery, then a tick of every registered service. The outcomes are ordered by URL. -/
def runOnce (s : Scheduler) : Program (List (AccessUrl × TickOutcome)) := do
  if s.discovery then discoverAll s.watched
  finishTicks (← startTicks (← Program.request .services))

/-- Registers a service and, if it is new, asks for a tick of it at once. -/
def register (service : Service) : Program (Option TickOutcome) := do
  if ← Program.request (.register service) then return some (← finishTick (← startTick service.url))
  else return none

/-- The work of a job. A tick waits for a permit and gives it back however it ends. -/
def work (s : Scheduler) : Job → Program Report
  | .round => return .rounded (← s.runOnce)
  | .tick g => do
    let ticket ← Program.request .queue
    Program.request (.permit ticket)
    let r ← s.synchronizer.runTick g
    Program.request .leave
    return match r with
      | .ok r => .ticked r
      | .error reason => .crashed reason

end Scheduler

end CatalogSync.Engine
