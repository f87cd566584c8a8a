import CatalogSync.Engine.Interleaving
import CatalogSync.Rehearsal.Script

/-!
# Running tasks on a virtual clock

Tasks run one at a time in the order in which they became ready, each until it has to wait or ends. The clock stands still while
any task is ready and else jumps to the next time that a task, or the loop of rounds, waits for.
-/

namespace CatalogSync.Rehearsal

open Engine

/-- A task with the fetch it may be in. -/
structure Actor where
  id : Nat
  program : Program Report
  visit : Option Visit
  /-- Whether its report is kept. -/
  kept : Bool

/-- A scene with tasks. -/
structure Machine where
  scheduler : Scheduler
  scene : Scene
  /-- The tasks, those that have waited longest first. -/
  actors : List Actor
  /-- The numbers of the tasks that may go on, in order. -/
  ready : List Nat
  /-- The loop of rounds, if it runs. -/
  loop : Option Loop
  /-- Whether a loop was started and not stopped since. -/
  handle : Bool
  /-- The reports of tasks that ended. -/
  reports : List (Nat × Report)

namespace Machine

/-- The machine with another world. -/
def withWorld (m : Machine) (world : World) : Machine := { m with scene.world := world }

/-- The time. -/
def now (m : Machine) : Nat := m.scene.world.now

/-- Makes tasks ready that waited and may go on. -/
def awaken (m : Machine) : Machine :=
  let woken := m.actors.filter fun a => !m.ready.contains a.id && m.scene.mayGoOn a.program a.visit
  { m with ready := m.ready ++ woken.map Actor.id }

/-- Begins the tasks of spawned jobs. -/
def begin (m : Machine) : Machine :=
  let jobs := m.scene.world.spawned
  let actors := jobs.map fun (id, job) => ⟨id, m.scheduler.work job, none, false⟩
  { m.withWorld { m.scene.world with spawned := [] } with
    actors := m.actors ++ actors, ready := m.ready ++ jobs.map Prod.fst }

/-- Starts a round if the loop says so. -/
def fireLoop (m : Machine) : Machine :=
  match m.loop with
  | some l =>
    if l.due ≤ m.now then
      let (_, world) := m.scene.world.spawn .round
      { m.withWorld world with loop := some (l.next m.now) }.begin
    else m
  | none => m

/-- Starts a task: its number. -/
def start (m : Machine) (p : Program Report) : Nat × Machine :=
  let id := m.scene.world.taskCount
  (id, { m.withWorld { m.scene.world with taskCount := id + 1 } with
    actors := m.actors ++ [⟨id, p, none, true⟩], ready := m.ready ++ [id] })

/-- Takes note of what a task that ended reports. -/
def conclude (m : Machine) (a : Actor) (r : Report) : Machine :=
  let m := m.withWorld ((r.tick?.map (m.scene.world.finish a.id)).getD m.scene.world)
  if a.kept then { m with reports := m.reports ++ [(a.id, r)] } else m

/-- Lets one task go on. -/
def runActor (m : Machine) (a : Actor) : Machine :=
  let (program, visit, scene) := m.scene.play a.program a.visit
  let m := { m with scene, actors := m.actors.filter fun b => b.id ≠ a.id }
  match program with
  | .done r => m.conclude a r
  | program => { m with actors := m.actors ++ [{ a with program, visit }] }

/-- Lets ready tasks run until none is ready. -/
def settle : Nat → Machine → Machine
  | 0, m => m
  | fuel + 1, m =>
    match m.ready with
    | [] => m
    | id :: rest =>
      let m := { m with ready := rest }
      match m.actors.find? fun a => a.id = id with
      | some a => settle fuel (m.runActor a).awaken.begin
      | none => settle fuel m

/-- The next time that something waits for. -/
def nextTimer (m : Machine) : Option Nat :=
  let times := (m.actors.flatMap fun a => Scene.timers a.program a.visit) ++ (m.loop.map Loop.due).toList
  (times.filter (m.now < ·)).min?

/-- How many tasks are run at most before the clock moves again, and how often it moves at most. -/
def patience : Nat := 1000000

/-- Lets everything happen that can happen now. -/
def rest (m : Machine) : Machine := settle patience m.awaken.fireLoop

/-- Lets time pass until something is the case, from one time that something waits for to the next. -/
def waitFor (done : Machine → Bool) : Nat → Machine → Machine
  | 0, m => m
  | fuel + 1, m =>
    if done m then m
    else
      match m.nextTimer with
      | none => m
      | some t => waitFor done fuel (m.withWorld { m.scene.world with now := t }).rest

/-- Sleeps until a time. -/
def sleeping (time : Nat) : Program Report := do
  Program.request (.sleep time)
  return .slept (← Program.request .now)

/-- Whether a task has ended. -/
def ended (m : Machine) (id : Nat) : Bool := (m.reports.lookup id).isSome

/-- Forgets the report of a task. -/
def forget (m : Machine) (id : Nat) : Machine := { m with reports := m.reports.filter fun r => r.1 ≠ id }

/-- Runs a program to its end while other tasks go on: its report, unless it waits for ever. -/
def run (m : Machine) (p : Program Report) : Option Report × Machine :=
  let (id, m) := m.start p
  let m := waitFor (ended · id) patience m.rest
  (m.reports.lookup id, m.forget id)

/-- Waits for a task to end, for at most the given milliseconds: its report, if it did. -/
def await (m : Machine) (id limit : Nat) : Option Report × Machine :=
  let (timer, m) := m.start (sleeping (m.now + limit))
  let m := waitFor (fun m => m.ended id || m.ended timer) patience m.rest
  (m.reports.lookup id, { (m.forget timer).forget id with actors := m.actors.filter fun a => a.id ≠ timer })

/-- Runs a program that does not have to wait: its value. -/
def perform {α : Type} (m : Machine) (p : Program α) : Option α × Machine :=
  match m.scene.play p none with
  | (.done a, _, scene) => (some a, { m with scene }.rest)
  | (_, _, scene) => (none, { m with scene }.rest)

end Machine

end CatalogSync.Rehearsal
