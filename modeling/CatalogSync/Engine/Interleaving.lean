import CatalogSync.Engine.Round
import CatalogSync.Engine.World

/-!
# Interleavings

Operations run as tasks over one world, and between two moves of one task anything else may happen. A step is one move of one task,
the beginning or the end of a task, a task cut short, a new operation, or the passing of time. Clients and the secret store may
answer anything at any time, and the catalog may apply or refuse a change set at any time. A task is cut short where a collaborator
crashes or its caller gives up on it: what it holds is then given back.
-/

namespace CatalogSync.Engine

/-- What callers ask of the engine. -/
inductive Operation where
  | register (service : Service)
  | synchronize (url : AccessUrl)
  | unregister (url : AccessUrl)
  | discover (registry : AccessUrl) (auth : AuthMethod)
  /-- One round. -/
  | round
  /-- A registration with a tick at once. -/
  | schedule (service : Service)

/-- The program of an operation. -/
def Operation.program (s : Scheduler) : Operation → Program Report
  | register service => return .registered (← Program.request (.register service))
  | synchronize url => do
    match ← s.synchronizer.synchronize url with
    | .ok outcome => return .asked outcome
    | .error reason => return .crashed reason
  | unregister url => return .unregistered (← Engine.unregister url)
  | discover registry auth => return .discovered (← Engine.discover registry auth)
  | round => return .rounded (← s.runOnce)
  | schedule service => return .scheduled (← Scheduler.register service)

/-- What a task is started for. -/
inductive Origin where
  | operation (op : Operation)
  | job (job : Job)

namespace Origin

/-- The program of a new task. -/
def program (s : Scheduler) : Origin → Program Report
  | operation op => op.program s
  | job j => s.work j

/-- The guards that a new task is handed. -/
def guards : Origin → List Guard
  | job (.tick g) => [g]
  | _ => []

end Origin

/-- What a task does at one time. -/
inductive Move where
  /-- A request is answered. -/
  | answered (r : Request) (a : r.Answer)
  /-- The deadline of a request takes effect before it is answered. -/
  | expired (r : Request)
  /-- Whoever waits for a guard listens for releases. -/
  | listened (url : AccessUrl)
  /-- Whoever waits for a guard finds the URL free. -/
  | took (g : Guard)
  /-- Whoever waits for a guard finds someone else at work on the URL. -/
  | yielded (url : AccessUrl)
  /-- Whoever waits for a guard hears of a release. -/
  | woken (url : AccessUrl)

namespace Move

/-- The guards that a task holds after a move. -/
def guards (held : List Guard) : Move → List Guard
  | answered (.tryMark _) (some g) => g :: held
  | took g => g :: held
  | answered (.unmark g) _ => held.erase g
  | answered (.spawn (.tick g)) _ => held.erase g
  | _ => held

/-- The number of permits that a task has or queues for after a move. -/
def permits (held : Nat) : Move → Nat
  | answered .queue _ => held + 1
  | answered .leave _ => held - 1
  | _ => held

end Move

/-- A numbered task: what it was started for, what it did so far, and what is left of its program. -/
structure Task where
  id : Nat
  origin : Origin
  /-- The moves of the task, the earliest first. -/
  moves : List Move
  /-- Why the task was cut short, if it was. -/
  cut : Option String
  program : Program Report

namespace Task

/-- A new task. -/
def start (s : Scheduler) (id : Nat) (origin : Origin) : Task := ⟨id, origin, [], none, origin.program s⟩

/-- The guards that a task holds. -/
def guards (t : Task) : List Guard := t.moves.foldl Move.guards t.origin.guards

/-- The number of permits that a task has or queues for. -/
def permits (t : Task) : Nat := t.moves.foldl Move.permits 0

/-- The task after a move. -/
def move (t : Task) (m : Move) (p : Program Report) : Task := { t with moves := t.moves ++ [m], program := p }

end Task

/-- Gives permits back and reports a crash. -/
def surrender (reason : String) : Nat → Program Report
  | 0 => return .crashed reason
  | n + 1 => do
    Program.request .leave
    surrender reason n

/-- What is left of a task that was cut short: it gives its guards back, and then its permits. -/
def unwind (reason : String) (permits : Nat) : List Guard → Program Report
  | [] => surrender reason permits
  | g :: gs => do
    Program.release g
    unwind reason permits gs

/-- Whether a request may be left without an answer: a collaborator may crash, or the caller may give up, while it is under way. -/
def Request.interruptible : Request → Bool
  | .sleep _ | .service _ | .services | .register _ | .remove _ | .swap _ _ _ | .resolve _ | .report _ _ | .join _ | .fetch _ _
  | .advertised _ _ | .apply _ _ => true
  | .now | .snapshot _ | .tryMark _ | .unmark _ | .wake | .spawn _ | .queue | .permit _ | .leave => false

namespace Program

variable {α : Type}

/-- What a program asks for next. -/
inductive Asks : Program α → Request → Prop where
  | ask {r : Request} {k : r.Answer → Program α} : Asks (.ask r k) r
  | within {d : Nat} {r : Request} {k : Option r.Answer → Program α} : Asks (.within d r k) r

/-- Where a program may be cut short. -/
inductive Interruptible : Program α → Prop where
  | request {p : Program α} {r : Request} (h : p.Asks r) (hr : r.interruptible = true) : Interruptible p
  | wait {url : AccessUrl} {heard : Nat} {k : Guard → Program α} : Interruptible (.hold url (.wait heard) k)

end Program

/-- The world, the tasks in it, and the tasks that have ended. -/
structure State where
  world : World
  tasks : List Task
  ended : List Task

/-- The answers that a request may get in a world, with the world after them. -/
inductive Answers (w : World) : (r : Request) → r.Answer → World → Prop where
  | world {r : Request} {a : r.Answer} {w' : World} (h : w.perform r = some (a, w')) : Answers w r a w'
  | resolved (name : String) (a : Option String) : Answers w (.resolve name) a w
  | fetched (url : AccessUrl) (headers : Headers) (a : Except String (Except FetchError Graph)) :
    Answers w (.fetch url headers) a w
  | advertised (registry : AccessUrl) (headers : Headers) (a : Except FetchError (List AccessUrl)) :
    Answers w (.advertised registry headers) a w
  | applied (url : AccessUrl) (changes : ResourceChanges) : Answers w (.apply url changes) (.ok ()) (w.apply url changes)
  | refused (url : AccessUrl) (changes : ResourceChanges) (e : ApplyError) : Answers w (.apply url changes) (.error e) w

/-- One step of what is left of a program, with the move that it makes. -/
inductive Program.Step {α : Type} : World → Program α → Move → World → Program α → Prop where
  | ask {w w' : World} {r : Request} {a : r.Answer} {k : r.Answer → Program α} (h : Answers w r a w') :
    Step w (.ask r k) (.answered r a) w' (k a)
  | within {w w' : World} {d : Nat} {r : Request} {a : r.Answer} {k : Option r.Answer → Program α}
    (h : Answers w r a w') : Step w (.within d r k) (.answered r a) w' (k (some a))
  /-- The deadline has passed. -/
  | expire {w : World} {d : Nat} {r : Request} {k : Option r.Answer → Program α} (h : d ≤ w.now) :
    Step w (.within d r k) (.expired r) w (k none)
  | listen {w : World} {url : AccessUrl} {k : Guard → Program α} :
    Step w (.hold url .listen k) (.listened url) w (.hold url (.attempt w.releases) k)
  /-- The URL was free. -/
  | take {w w' : World} {url : AccessUrl} {heard : Nat} {g : Guard} {k : Guard → Program α}
    (h : w.tryMark url = (some g, w')) : Step w (.hold url (.attempt heard) k) (.took g) w' (k g)
  /-- Someone else is at work on the URL. -/
  | yield {w w' : World} {url : AccessUrl} {heard : Nat} {k : Guard → Program α} (h : w.tryMark url = (none, w')) :
    Step w (.hold url (.attempt heard) k) (.yielded url) w' (.hold url (.wait heard) k)
  /-- There was a release after the listening began. -/
  | woken {w : World} {url : AccessUrl} {heard : Nat} {k : Guard → Program α} (h : heard < w.releases) :
    Step w (.hold url (.wait heard) k) (.woken url) w (.hold url .listen k)

/-- What happens in a step. -/
inductive Event where
  | called (id : Nat) (op : Operation)
  | began (id : Nat) (job : Job)
  | moved (id : Nat) (m : Move)
  | ended (id : Nat) (report : Report)
  | cut (id : Nat) (reason : String)
  | passed (time : Nat)

/-- One step of a state. -/
inductive State.Step (s : Scheduler) : State → Event → State → Prop where
  /-- A caller starts an operation. -/
  | call (w : World) (ts past : List Task) (op : Operation) :
    Step s ⟨w, ts, past⟩ (.called w.taskCount op)
      ⟨{ w with taskCount := w.taskCount + 1 }, ts ++ [.start s w.taskCount (.operation op)], past⟩
  /-- The task of a job begins to run. -/
  | begin {w : World} {ts past : List Task} {before after : List (Nat × Job)} {id : Nat} {job : Job}
    (h : w.spawned = before ++ (id, job) :: after) :
    Step s ⟨w, ts, past⟩ (.began id job) ⟨{ w with spawned := before ++ after }, ts ++ [.start s id (.job job)], past⟩
  /-- A task makes a move. -/
  | move {w w' : World} {before after past : List Task} {t : Task} {m : Move} {p : Program Report}
    (h : Program.Step w t.program m w' p) :
    Step s ⟨w, before ++ t :: after, past⟩ (.moved t.id m) ⟨w', before ++ t.move m p :: after, past⟩
  /-- A task ends. -/
  | finish {w : World} {before after past : List Task} {t : Task} {report : Report} (h : t.program = .done report) :
    Step s ⟨w, before ++ t :: after, past⟩ (.ended t.id report)
      ⟨(report.tick?.map (w.finish t.id)).getD w, before ++ after, past ++ [t]⟩
  /-- A task is cut short. -/
  | cut {w : World} {before after past : List Task} {t : Task} (h : t.program.Interruptible) (reason : String) :
    Step s ⟨w, before ++ t :: after, past⟩ (.cut t.id reason)
      ⟨w, before ++ { t with cut := some reason, program := unwind reason t.permits t.guards } :: after, past⟩
  /-- Time passes. -/
  | pass (w : World) (ts past : List Task) (t : Nat) : Step s ⟨w, ts, past⟩ (.passed t) ⟨{ w with now := w.now + t }, ts, past⟩

/-- A run: the steps that lead from one state to another, and what happens in them. -/
inductive State.Run (s : Scheduler) (start : State) : List Event → State → Prop where
  | refl : Run s start [] start
  | step {es : List Event} {x y : State} {e : Event} (h : Run s start es x) (h' : State.Step s x e y) :
    Run s start (es ++ [e]) y

/-- An invariant of the steps that happen in a run holds in the state that it leads to. -/
theorem State.Run.invariant {s : Scheduler} {start x : State} {es : List Event} {P : State → Prop}
    (h : State.Run s start es x) (h₀ : P start) (hs : ∀ e ∈ es, ∀ x y, P x → State.Step s x e y → P y) : P x := by
  induction h with
  | refl => exact h₀
  | step _ h' ih =>
    have hp := ih fun e he => hs e (List.mem_append_left _ he)
    exact hs _ (List.mem_append_right _ (List.mem_singleton_self _)) _ _ hp h'

end CatalogSync.Engine
