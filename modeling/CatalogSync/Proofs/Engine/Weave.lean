import CatalogSync.Proofs.Engine.Account
import CatalogSync.Proofs.Engine.Trace

/-!
# What operations are woven from

Every operation, and every job, is woven from a few parts: what a tick does with the guard of its service, what an unregistration does
with it, waiting for a guard, and requests about neither an entry nor a graph (`Origin.woven`). So a condition that goes through one
program after the other holds of all of them once it holds of the parts (`Program.Woven.always`).
-/

namespace CatalogSync.Engine

/-- Whether a request is made outside of the run of a tick and of a clean-up. -/
def Request.plain : Request → Bool
  | .register _ | .services | .resolve _ | .advertised _ _ | .tryMark _ | .unmark _ | .wake | .spawn _ | .join _ | .queue | .permit _
  | .leave => true
  | .now | .sleep _ | .service _ | .remove _ | .swap _ _ _ | .snapshot _ | .report _ _ | .fetch _ _ | .apply _ _ => false

/-- The programs that are woven from attempts of ticks, clean-ups, waiting for guards and plain requests. -/
inductive Program.Woven (y : Synchronizer) : {α : Type} → Program α → Prop where
  | done {α : Type} (a : α) : Woven y (.done a)
  | request {r : Request} (h : r.plain = true) : Woven y (request r)
  | hold (url : AccessUrl) : Woven y (holdGuard url)
  | attempt (g : Guard) : Woven y (y.attempt g)
  | cleanUp (url : AccessUrl) : Woven y (Engine.cleanUp url)
  | bind {α β : Type} {p : Program α} {f : α → Program β} (h : Woven y p) (hf : ∀ a, Woven y (f a)) : Woven y (p >>= f)

namespace Program

variable {y : Synchronizer} {σ : Type} {C : Calculus σ}

/-- That a program meets a calculus in every state, with nothing to be known where it is done. -/
def Always (C : Calculus σ) {α : Type} (p : Program α) : Prop := ∀ x, p.Meets C x fun _ _ => True

/-- What holds of two programs in every state holds of one after the other. -/
theorem Always.bind {α β : Type} {p : Program α} {f : α → Program β} (h : p.Always C) (hf : ∀ a, (f a).Always C) :
    (p >>= f).Always C :=
  fun x => (h x).seq fun a x' _ => hf a x'

/-- What the parts of a woven program meet in every state, the program meets in every state. -/
theorem Woven.always {α : Type} {p : Program α} (h : p.Woven y)
    (hrequest : ∀ r : Request, r.plain = true → (Program.request r).Always C) (hhold : ∀ url, (holdGuard url).Always C)
    (hattempt : ∀ g, (y.attempt g).Always C) (hcleanUp : ∀ url, (Engine.cleanUp url).Always C) : p.Always C := by
  induction h with
  | done a => exact fun _ => trivial
  | request h => exact hrequest _ h
  | hold url => exact hhold url
  | attempt g => exact hattempt g
  | cleanUp url => exact hcleanUp url
  | bind _ _ ih ihf => exact ih.bind ihf

end Program

open Program

variable {y : Synchronizer}

/-- Giving a guard back is two plain requests. -/
theorem woven_release (g : Guard) : (release g).Woven y :=
  (Woven.request (r := .unmark g) rfl).bind fun _ => Woven.request (r := .wake) rfl

/-- A tick is an attempt, and the guard given back. -/
theorem Synchronizer.woven_runTick (y : Synchronizer) (g : Guard) : (y.runTick g).Woven y := by
  rw [runTick_eq]
  exact (Woven.attempt g).bind fun r => (woven_release g).bind fun _ => .done r

/-- An unregistration waits for a guard, cleans up and gives it back. -/
theorem woven_unregister (url : AccessUrl) : (unregister url).Woven y :=
  (Woven.hold url).bind fun g => (Woven.cleanUp url).bind fun r => (woven_release g).bind fun _ => .done r

namespace Discovery

/-- Headers are built by plain requests. -/
theorem woven_headers (auth : AuthMethod) : Woven y (auth.headers fun name => request (.resolve name)) := by
  refine Woven.bind ?_ fun _ => .done _
  cases auth with
  | none | basic username password | apiKey name value => exact .done _
  | vault name =>
    refine (Woven.request (r := .resolve name) rfl).bind ?_
    rintro (_ | value)
    · exact .done _
    · exact .done _

/-- Newly advertised services are registered by one plain request each. -/
theorem woven_registerNew (registry : AccessUrl) (auth : AuthMethod) (urls : List AccessUrl) :
    (registerNew registry auth urls).Woven y := by
  induction urls with
  | nil => exact .done _
  | cons url rest ih => exact (Woven.request (r := .register _) rfl).bind fun _ => ih.bind fun _ => .done _

/-- Unregistering several URLs is woven from unregistering each. -/
theorem woven_unregisterAll (urls : List AccessUrl) : (unregisterAll urls).Woven y := by
  induction urls with
  | nil => exact .done _
  | cons url rest ih => exact (woven_unregister url).bind fun _ => ih

end Discovery

/-- A pass of discovery is woven from plain requests and unregistrations. -/
theorem woven_discover (registry : AccessUrl) (auth : AuthMethod) : (discover registry auth).Woven y := by
  refine (Discovery.woven_headers auth).bind ?_
  rintro (e | headers)
  · exact .done _
  refine (Woven.request (r := .advertised registry headers) rfl).bind ?_
  rintro (e | urls)
  · exact .done _
  refine Woven.bind ?_ fun _ => .done _
  refine (Discovery.woven_registerNew registry auth urls.eraseDups).bind fun added => ?_
  refine (Woven.request (r := .services) rfl).bind fun services => ?_
  exact (Discovery.woven_unregisterAll _).bind fun _ => .done _

namespace Scheduler

/-- Starting a tick is plain, the tick being a task of its own. -/
theorem woven_startTick (url : AccessUrl) : (startTick url).Woven y := by
  refine (Woven.request (r := .tryMark url) rfl).bind ?_
  rintro (_ | g)
  · exact .done _
  · exact (Woven.request (r := .spawn (.tick g)) rfl).bind fun _ => .done _

/-- So is waiting for it. -/
theorem woven_finishTick (task : Option Nat) : (finishTick task).Woven y := by
  cases task with
  | none => exact .done _
  | some task =>
    refine (Woven.request (r := .join task) rfl).bind ?_
    rintro (reason | r)
    · exact .done _
    · exact .done _

/-- Starting the ticks of a round is woven from starting each. -/
theorem woven_startTicks (services : List Service) : (startTicks services).Woven y := by
  induction services with
  | nil => exact .done _
  | cons service rest ih => exact (woven_startTick service.url).bind fun _ => ih.bind fun _ => .done _

/-- Waiting for them is woven from waiting for each. -/
theorem woven_finishTicks (ticks : List (AccessUrl × Option Nat)) : (finishTicks ticks).Woven y := by
  induction ticks with
  | nil => exact .done _
  | cons tick rest ih => exact (woven_finishTick tick.2).bind fun _ => ih.bind fun _ => .done _

/-- The passes of a round are woven from each of them. -/
theorem woven_discoverAll (watched : List Watched) : (discoverAll watched).Woven y := by
  induction watched with
  | nil => exact .done _
  | cons w rest ih => exact (woven_discover w.url w.auth).bind fun _ => ih

/-- A round is woven from its passes, and from starting its ticks and waiting for them. -/
theorem woven_runOnce (s : Scheduler) : s.runOnce.Woven y := by
  have hticks : Woven y (do finishTicks (← startTicks (← request .services))) := by
    refine (Woven.request (r := .services) rfl).bind fun services => ?_
    exact (woven_startTicks services).bind woven_finishTicks
  unfold runOnce
  split
  · exact (woven_discoverAll s.watched).bind fun _ => hticks
  · exact hticks

/-- A registration is woven from a plain request and its first tick. -/
theorem woven_register (service : Service) : (register service).Woven y := by
  refine (Woven.request (r := .register service) rfl).bind ?_
  rintro (_ | _)
  · exact .done _
  · exact (woven_startTick service.url).bind fun task => (woven_finishTick task).bind fun _ => .done _

end Scheduler

/-- Whatever a task is started for is woven. -/
theorem Origin.woven (s : Scheduler) (origin : Origin) : (origin.program s).Woven s.synchronizer := by
  rcases origin with op | g | _
  · cases op with
    | register service => exact (Woven.request (r := .register service) rfl).bind fun _ => .done _
    | synchronize url =>
      rw [show Origin.program s (.operation (.synchronize url)) = _ from Synchronizer.program_synchronize s url]
      refine Woven.bind (p := request (.tryMark url)) (Woven.request rfl) ?_
      rintro (_ | g)
      · exact .done _
      · exact (Woven.attempt g).bind fun r => (woven_release g).bind fun _ => .done _
    | unregister url => exact (woven_unregister url).bind fun _ => .done _
    | discover registry auth => exact (woven_discover registry auth).bind fun _ => .done _
    | round => exact s.woven_runOnce.bind fun _ => .done _
    | schedule service => exact (Scheduler.woven_register service).bind fun _ => .done _
  · refine (Woven.request (r := .queue) rfl).bind fun ticket => ?_
    refine (Woven.request (r := .permit ticket) rfl).bind fun _ => ?_
    exact (s.synchronizer.woven_runTick g).bind fun r => (Woven.request (r := .leave) rfl).bind fun _ => .done _
  · exact s.woven_runOnce.bind fun _ => .done _

/-- So is what is left of a task that was cut short. -/
theorem woven_unwind (reason : String) (permits : Nat) (gs : List Guard) : (unwind reason permits gs).Woven y := by
  induction gs with
  | nil =>
    induction permits with
    | zero => exact .done _
    | succ n ih => exact (Woven.request (r := .leave) rfl).bind fun _ => ih
  | cons g gs ih => exact (woven_release g).bind fun _ => ih

/-- What every woven program meets, what is left of each task meets with what is kept track of for the task, if moves keep that up. -/
theorem State.Step.meets {s : Scheduler} {x z : State} {e : Event} {σ : Type} {C : Calculus σ}
    (hs : State.Step s x e z) (track : Task → σ) (hC : ∀ p : Program Report, p.Woven s.synchronizer → p.Always C)
    (hmove : ∀ (t : Task) m p, Program.Step x.world t.program m z.world p → t.program.Meets C (track t) (fun _ _ => True) →
      p.Meets C (track (t.move m p)) fun _ _ => True)
    (h : ∀ t ∈ x.tasks, t.program.Meets C (track t) fun _ _ => True) : ∀ t ∈ z.tasks, t.program.Meets C (track t) fun _ _ => True := by
  refine hs.forall_tasks h ?_ ?_ ?_
  · exact fun id origin => hC _ (origin.woven s) _
  · exact fun t ht m p hm => hmove t m p hm ht
  · exact fun t _ _ reason => hC _ (woven_unwind reason t.permits t.guards) _

end CatalogSync.Engine
