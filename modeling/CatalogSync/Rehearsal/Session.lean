import CatalogSync.Rehearsal.Machine

/-!
# Rehearsal sessions

A session is a sequence of commands to one machine: operations of the engine, in the foreground or in the background, single steps
of a tick, direct use of the registry and the catalog, and lines of the script. Services, snapshots, guards and what ticks work on
are kept under names.
-/

namespace CatalogSync.Rehearsal

open Engine

/-- A service to use: a given one, or one that was kept. -/
inductive ServiceArg where
  | given (service : Service)
  | kept (name : String)

/-- A command of a session. -/
inductive Command where
  | insertSecret (name value : String)
  | removeSecret (name : String)
  | resolveSecret (name : String)
  | put (service : ServiceArg)
  | update (service : ServiceArg)
  | get (url : AccessUrl) (keep : Option String)
  | remove (url : AccessUrl) (keep : Option String)
  | getAll
  | contains (url : AccessUrl)
  | size
  | makeSnapshot (name : String) (graph : Graph)
  | keepSnapshot (url : AccessUrl) (name : String)
  | swap (url : AccessUrl) (expected : Option String) (new : String)
  | tryHold (url : AccessUrl) (guard : String)
  | hold (url : AccessUrl) (guard : String)
  | drop (guard : String)
  | inFlight (url : AccessUrl)
  | respond (url : AccessUrl) (response : Response)
  | advertise (registry : AccessUrl) (urls : Except FetchError (List AccessUrl))
  | gate (closed : Bool)
  | release (count : Nat)
  | failCatalog (error : Option ApplyError)
  | apply (url : AccessUrl) (changes : ResourceChanges)
  | entries (url : AccessUrl)
  | references (url : AccessUrl)
  | register (service : ServiceArg)
  | synchronize (url : AccessUrl)
  | runTick (guard : String)
  | unregister (url : AccessUrl)
  | discover (registry : AccessUrl) (auth : AuthMethod)
  | runOnce
  | schedule (service : ServiceArg)
  | startLoop
  | stopLoop
  | sleep (duration : Nat)
  | makeFetched (service : ServiceArg) (graph : Graph) (keep : Option String)
  | fetchStep (service : ServiceArg) (keep : Option String)
  | restrictStep (input : Option String) (kinds : List ResourceKind) (keep : Option String)
  | diffStep (input : Option String) (keep : Option String)
  | updateStep (input : Option String) (keep : Option String)
  | emitStep (input : Option String)
  | stepNames
  | join (task : String)
  | isFinished (task : String)

/-- A service as it is shown: with the names of the kept snapshots that are the same object as its own. -/
structure ShownService where
  service : Service
  snapshotNames : List String

/-- What a command is answered with. -/
inductive Reply where
  | nothing
  | flag (b : Bool)
  | text (s : String)
  | names (l : List String)
  | time (ms : Nat)
  | size (n : Nat)
  | service (s : ShownService)
  | services (l : List ShownService)
  | swapped (r : Except RegistryError (Option Snapshot))
  | held (g : Guard)
  | applied (r : Except ApplyError Unit)
  | entries (l : List Entry)
  | references (l : List Reference)
  | outcome (o : TickOutcome)
  | ticked (r : TickResult)
  | discovered (r : Except SyncError DiscoveryChanges)
  | rounded (l : List (AccessUrl × TickOutcome))
  | fetched (r : Outcome (Option Fetched))
  | diffed (r : Outcome (Option Diffed))
  | started
  | pending
  | crashed (reason : String)
  deriving Inhabited

/-- Values by their names. -/
abbrev Named (α : Type) := List (String × α)

/-- Keeps a value under a name, in place of an earlier one. -/
def Named.set {α : Type} (l : Named α) (name : String) (a : α) : Named α := (name, a) :: List.filter (fun x => x.1 ≠ name) l

/-- Forgets the value of a name. -/
def Named.unset {α : Type} (l : Named α) (name : String) : Named α := List.filter (fun x => x.1 ≠ name) l

/-- What is kept when a task ends. -/
inductive Keeping where
  | nothing
  | guard (name : String)
  | fetched (name : Option String)

/-- A command in the background. -/
inductive Background where
  | running (task : Nat) (keeping : Keeping)
  | finished (reply : Reply)

/-- A machine and what is kept under names. -/
structure Session where
  machine : Machine
  services : Named Service
  snapshots : Named Snapshot
  guards : Named Guard
  fetched : Named Fetched
  diffed : Named Diffed
  background : Named Background

namespace Session

/-- The session with another world, in which tasks may go on. -/
def withWorld (s : Session) (world : World) : Session := { s with machine := (s.machine.withWorld world).rest }

/-- The world of a session. -/
def world (s : Session) : World := s.machine.scene.world

/-- The session with another script, by which tasks may go on. -/
def withScript (s : Session) (script : Script) : Session :=
  { s with machine := { s.machine with scene.script := script }.rest }

/-- The script of a session. -/
def script (s : Session) : Script := s.machine.scene.script

/-- A service as it is shown in a session. -/
def shown (s : Session) (x : Service) : ShownService :=
  let names := match x.snapshot with
    | none => []
    | some snapshot => (s.snapshots.filter fun (e : String × Snapshot) => e.2.id = snapshot.id).map Prod.fst
  ⟨x, names.mergeSort⟩

/-- The service that is to be used, if there is one. -/
def service? (s : Session) : ServiceArg → Option Service
  | .given x => some x
  | .kept name => s.services.lookup name

/-- Keeps a service under a name, if one is given. -/
def keepService (s : Session) (name : Option String) (x : Service) : Session :=
  match name with
  | some name => { s with services := s.services.set name x }
  | none => s

/-- Runs a program that does not have to wait. -/
def perform {α : Type} (s : Session) (p : Program α) : Option α × Session :=
  let (a, machine) := s.machine.perform p
  (a, { s with machine })

/-- Keeps a guard under a name; one that was kept under the name is given back. -/
def keepGuard (s : Session) (name : String) (g : Guard) : Session :=
  let old := s.guards.lookup name
  let s := { s with guards := s.guards.set name g }
  match old with
  | some old => (s.perform (Program.release old)).2
  | none => s

/-- Keeps what a successful step gives, if a name is given. -/
def keepContent {α : Type} (kept : Named α) (name : Option String) (r : Outcome (Option α)) : Named α :=
  match name, r with
  | some name, .success (some a) => kept.set name a
  | _, _ => kept

/-- Keeps what a task's report gives, and answers with the report. -/
def conclude (s : Session) (keeping : Keeping) (r : Report) : Reply × Session :=
  match r with
  | .registered isNew => (.flag isNew, s)
  | .ticked r | .unregistered r => (.ticked r, s)
  | .asked o => (.outcome o, s)
  | .discovered r => (.discovered r, s)
  | .rounded l => (.rounded l, s)
  | .scheduled (some o) => (.outcome o, s)
  | .scheduled none => (.nothing, s)
  | .slept now => (.time now, s)
  | .crashed reason => (.crashed reason, s)
  | .held g =>
    match keeping with
    | .guard name => (.held g, s.keepGuard name g)
    | _ => (.held g, s)
  | .fetched r =>
    match keeping with
    | .fetched name => (.fetched r, { s with fetched := keepContent s.fetched name r })
    | _ => (.fetched r, s)

/-- Runs a single step of a tick without a deadline. -/
def stepProgram {α β : Type} (step : Step Timed α β) (a : α) : Program (Except Halt (Outcome β)) :=
  Timed.run (step.apply a) none

/-- Runs a single step of a tick that does not have to wait. -/
def performStep {α β : Type} (s : Session) (step : Step Timed α β) (a : α) : Option (Outcome β) × Session :=
  match s.perform (stepProgram step a) with
  | (some (.ok r), s) => (some r, s)
  | (_, s) => (none, s)

/-- The program of a command that may have to wait, and what is kept when it ends. -/
def program? (s : Session) : Command → Option (Program Report × Keeping × Session)
  | .hold url guard => some (return .held (← Program.holdGuard url), .guard guard, s)
  | .synchronize url => operation (.synchronize url)
  | .unregister url => operation (.unregister url)
  | .discover registry auth => operation (.discover registry auth)
  | .runOnce => operation .round
  | .register service => (s.service? service).bind fun x => operation (.register x)
  | .schedule service => (s.service? service).bind fun x => operation (.schedule x)
  | .sleep duration => some (Machine.sleeping (s.machine.now + duration), .nothing, s)
  | .runTick guard => (s.guards.lookup guard).map fun g => (do
      match ← s.machine.scheduler.synchronizer.runTick g with
      | .ok r => return .ticked r
      | .error reason => return .crashed reason, .nothing, { s with guards := s.guards.unset guard })
  | .fetchStep service keep => (s.service? service).map fun x => (do
      match ← stepProgram Tick.fetching x with
      | .ok r => return .fetched r
      | .error (.crashed reason) => return .crashed reason
      | .error .expired => return .crashed "", .fetched keep, s)
  | _ => none
where
  /-- An operation, after which nothing is kept. -/
  operation (op : Operation) : Option (Program Report × Keeping × Session) :=
    some (op.program s.machine.scheduler, .nothing, s)

/-- The names of a tick's steps in order, and of its first and its last phase. -/
def stepNames : List String :=
  [Tick.fetching.name, (Tick.restricting []).name, Tick.diffing.name, Tick.updating.name, Tick.emitting.name,
    Phase.fetching.name, Phase.emitting.name]

/-- Answers a command that does not have to wait; those that may, and to which there is no program, are answered with nothing. -/
def answer (s : Session) : Command → Reply × Session
  | .insertSecret name value => (.nothing, s.withWorld { s.world with secrets := s.world.secrets.insert name value })
  | .removeSecret name =>
    (.flag (s.world.secrets.resolve name).isSome, s.withWorld { s.world with secrets := s.world.secrets.remove name })
  | .resolveSecret name => (((s.world.secrets.resolve name).map Reply.text).getD .nothing, s)
  | .put service =>
    match s.service? service with
    | some x =>
      let (isNew, registry) := s.world.registry.put x
      (.flag isNew, s.withWorld { s.world with registry })
    | none => (.nothing, s)
  | .update service =>
    match s.service? service with
    | some x =>
      let (isKnown, registry) := s.world.registry.update x
      (.flag isKnown, s.withWorld { s.world with registry })
    | none => (.nothing, s)
  | .get url keep =>
    match s.world.registry.get? url with
    | some x => (.service (s.shown x), s.keepService keep x)
    | none => (.nothing, s)
  | .remove url keep =>
    match s.world.registry.remove url with
    | (some x, registry) => (.service (s.shown x), (s.withWorld { s.world with registry }).keepService keep x)
    | (none, _) => (.nothing, s)
  | .getAll => (.services (s.world.registry.getAll.map s.shown), s)
  | .contains url => (.flag (s.world.registry.contains url), s)
  | .size => (.size s.world.registry.size, s)
  | .makeSnapshot name graph =>
    let (snapshot, world) := s.world.snapshot graph
    (.nothing, { s.withWorld world with snapshots := s.snapshots.set name snapshot })
  | .keepSnapshot url name =>
    match (s.world.registry.get? url).bind Service.snapshot with
    | some x => (.flag true, { s with snapshots := s.snapshots.set name x })
    | none => (.flag false, s)
  | .swap url expected new =>
    match s.snapshots.lookup new with
    | none => (.nothing, s)
    | some new =>
      let (r, world) := s.world.swap url (expected.bind (s.snapshots.lookup ·)) new
      (.swapped r, s.withWorld world)
  | .tryHold url guard =>
    match s.world.tryMark url with
    | (some g, world) => (.held g, (s.withWorld world).keepGuard guard g)
    | (none, _) => (.nothing, s)
  | .drop guard =>
    match s.guards.lookup guard with
    | some g => (.flag true, ({ s with guards := s.guards.unset guard }.perform (Program.release g)).2)
    | none => (.flag false, s)
  | .inFlight url => (.flag (s.world.inFlight.contains url), s)
  | .respond url response =>
    (.nothing, s.withScript { s.script with responses := s.script.responses ++ [(url, response)] })
  | .advertise registry urls =>
    (.nothing, s.withScript { s.script with advertisements := s.script.advertisements ++ [(registry, urls)] })
  | .gate closed => (.nothing, s.withScript { s.script with gated := closed })
  | .release count => (.nothing, s.withScript { s.script with gate := s.script.gate.releaseMany count })
  | .failCatalog error => (.nothing, s.withScript { s.script with catalogError := error })
  | .apply url changes =>
    match s.perform (Program.request (.apply url changes)) with
    | (some r, s) => (.applied r, s)
    | (none, s) => (.nothing, s)
  | .entries url => (.entries (s.world.catalog.entries url), s)
  | .references url => (.references (s.world.catalog.references url), s)
  | .startLoop =>
    let loop := match Loop.start s.machine.now s.machine.scheduler.period with
      | .ok l => some l
      | .error _ => none
    (.nothing, { s with machine := { s.machine with loop, handle := true }.rest })
  | .stopLoop => (.flag s.machine.handle, { s with machine := { s.machine with loop := none, handle := false } })
  | .makeFetched service graph keep =>
    match s.service? service with
    | some x =>
      let r : Outcome (Option Fetched) := .success (some ⟨x, graph⟩)
      (.fetched r, { s with fetched := keepContent s.fetched keep r })
    | none => (.nothing, s)
  | .restrictStep input kinds keep =>
    match s.performStep (Tick.restricting kinds) (input.bind (s.fetched.lookup ·)) with
    | (some r, s) => (.fetched r, { s with fetched := keepContent s.fetched keep r })
    | (none, s) => (.nothing, s)
  | .diffStep input keep =>
    match s.performStep Tick.diffing (input.bind (s.fetched.lookup ·)) with
    | (some r, s) => (.diffed r, { s with diffed := keepContent s.diffed keep r })
    | (none, s) => (.nothing, s)
  | .updateStep input keep =>
    match s.performStep Tick.updating (input.bind (s.diffed.lookup ·)) with
    | (some r, s) => (.diffed r, { s with diffed := keepContent s.diffed keep r })
    | (none, s) => (.nothing, s)
  | .emitStep input =>
    match s.performStep Tick.emitting (input.bind (s.diffed.lookup ·)) with
    | (some r, s) => (.ticked r, s)
    | (none, s) => (.nothing, s)
  | .stepNames => (.names stepNames, s)
  | .isFinished task =>
    match s.background.lookup task with
    | some (.finished _) => (.flag true, s)
    | some (.running _ _) => (.flag false, s)
    | none => (.nothing, s)
  | _ => (.nothing, s)

/-- Takes note of the tasks in the background that have ended. -/
def collect (s : Session) : Session :=
  s.background.foldl (fun s (name, b) =>
    match b with
    | .finished _ => s
    | .running task keeping =>
      match s.machine.reports.lookup task with
      | none => s
      | some r =>
        let (reply, s) := { s with machine := s.machine.forget task }.conclude keeping r
        { s with background := s.background.set name (.finished reply) }) s

/-- How long a task in the background is waited for. -/
def joinLimit : Nat := 3600000

/-- Waits for a command in the background. -/
def joinTask (s : Session) (name : String) : Reply × Session :=
  match s.background.lookup name with
  | none => (.nothing, s)
  | some (.finished reply) => (reply, { s with background := s.background.unset name })
  | some (.running task keeping) =>
    match s.machine.await task joinLimit with
    | (some r, machine) => { s with machine, background := s.background.unset name }.conclude keeping r
    | (none, machine) => (.pending, { s with machine })

/-- Runs a command in the foreground. -/
def run (s : Session) (c : Command) : Reply × Session :=
  match c with
  | .join name => s.joinTask name
  | c =>
    match s.program? c with
    | none => s.answer c
    | some (p, keeping, s) =>
      match s.machine.run p with
      | (some r, machine) => { s with machine }.conclude keeping r
      | (none, machine) => (.pending, { s with machine })

/-- Runs a command in a named task in the background. -/
def runInBackground (s : Session) (name : String) (c : Command) : Reply × Session :=
  match s.program? c with
  | some (p, keeping, s) =>
    let (task, machine) := s.machine.start p
    (.started, { s with machine := machine.rest, background := s.background.set name (.running task keeping) })
  | none =>
    let (reply, s) := s.answer c
    (.started, { s with background := s.background.set name (.finished reply) })

/-- Runs a command and then everything that can run without the clock moving: the reply, and what clients, catalog and sink were
asked and told meanwhile. -/
def step (s : Session) (background : Option String) (c : Command) :
    Reply × Journal × List (Nat × String × Failure) × Session :=
  let (reply, s) := match background with
    | some name => s.runInBackground name c
    | none => s.run c
  let s := s.collect
  let journal := s.machine.scene.journal
  let reports := s.world.reports
  let machine := (s.machine.withWorld { s.world with reports := [] })
  (reply, journal, reports, { s with machine := { machine with scene.journal := ⟨[], []⟩ } })

/-- The session with a scheduler, before anything has happened. -/
def start (scheduler : Scheduler) (permits : Permits) : Session where
  machine := {
    scheduler := scheduler
    scene := ⟨.initial permits, .empty, ⟨[], []⟩⟩
    actors := []
    ready := []
    loop := none
    handle := false
    reports := [] }
  services := []
  snapshots := []
  guards := []
  fetched := []
  diffed := []
  background := []

/-- Registers the services and watches the registries that settings list. After an error nothing is watched, but what was
registered before it stays. -/
def watchEndpoints (s : Session) (settings : Settings) (hasStore : Bool) : Except SyncError Unit × Session :=
  match s.perform (s.machine.scheduler.withEndpoints settings hasStore) with
  | (some (.ok scheduler), s) => (.ok (), { s with machine.scheduler := scheduler })
  | (some (.error e), s) => (.error e, s)
  | (none, s) => (.ok (), s)

/-- Watches one more registry. -/
def watch (s : Session) (url : AccessUrl) (auth : AuthMethod) : Session :=
  { s with machine.scheduler := s.machine.scheduler.watch url auth }

end Session

end CatalogSync.Rehearsal
