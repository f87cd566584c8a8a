import CatalogSync.Proofs.Engine.Joins
import CatalogSync.Proofs.Engine.Vocabulary

/-!
# What tasks owe

A task that has a guard in its hands gives it back, or hands it to the tick that it starts, before it waits for anything that others
have to do; when it gives the guard back, it wakes those who wait before it does anything else; and what it starts it waits for, in
order, before it ends. The `Duty` of a task is how far it has got with all that, and the calculus `dutiful` says that every operation
and every job does it (`Origin.dutiful`), wherever it is cut short (`State.Run.dutiful`).
-/

namespace CatalogSync.Engine

/-! ## What a task owes -/

/-- What a task has yet to do. -/
structure Duty where
  /-- The guard in its hands. -/
  guard : Option Guard
  /-- Whether it gave a guard back and has woken nobody yet. -/
  waking : Bool
  /-- The ticks that it started and has not waited for, the earliest first. -/
  ticks : List Nat

namespace Duty

/-- What is asked for at any time, but not between giving a guard back and waking those who wait. -/
def plain : Request → Bool
  | .now | .service _ | .services | .register _ | .remove _ | .swap _ _ _ | .snapshot _ | .resolve _ | .report _ _ | .queue | .permit _
  | .leave | .fetch _ _ | .advertised _ _ | .apply _ _ => true
  | .sleep _ | .tryMark _ | .unmark _ | .wake | .spawn _ | .join _ => false

/-- What a task may ask for. -/
def Allows (d : Duty) : Request → Prop
  | .tryMark _ => d.guard = none ∧ d.waking = false
  | .unmark g | .spawn (.tick g) => d.guard = some g ∧ d.waking = false
  | .wake => True
  | .join n => d.guard = none ∧ d.waking = false ∧ d.ticks.head? = some n
  | .spawn .round | .sleep _ => False
  | _ => d.waking = false

/-- What there is to do after a move. -/
def after (d : Duty) : Move → Duty
  | .answered (.tryMark _) (some g) | .took g => { d with guard := some g }
  | .answered (.unmark _) _ => { d with guard := none, waking := true }
  | .answered .wake _ => { d with waking := false }
  | .answered (.spawn (.tick _)) n => { d with guard := none, ticks := d.ticks ++ [n] }
  | .answered (.join _) _ => { d with ticks := d.ticks.tail }
  | _ => d

variable {d : Duty} {r : Request}

/-- Who has nobody to wake may ask for anything plain. -/
theorem allows_plain (h : plain r = true) (hw : d.waking = false) : d.Allows r := by
  cases r with
  | sleep | tryMark | unmark | wake | spawn | join => nomatch h
  | _ => exact hw

/-- Asking for something plain changes nothing about what is owed. -/
theorem after_plain (h : plain r = true) (a : r.Answer) : d.after (.answered r a) = d := by
  cases r with
  | sleep | tryMark | unmark | wake | spawn | join => nomatch h
  | _ => rfl

/-- Whoever has yet to wake those who wait does nothing else. -/
theorem eq_wake_of_waking (h : d.Allows r) (hw : d.waking = true) : r = .wake := by
  cases r with
  | wake => rfl
  | sleep => exact h.elim
  | spawn job =>
    cases job with
    | tick g => nomatch hw.symm.trans h.2
    | round => exact h.elim
  | tryMark | unmark => nomatch hw.symm.trans h.2
  | join => nomatch hw.symm.trans h.2.1
  | _ => nomatch hw.symm.trans h

end Duty

/-! ## Dutiful programs -/

/-- Asking as a task does that knows what it has to do. -/
def dutiful : Calculus Duty where
  ask d r K E := d.Allows r ∧ (∀ a, K a (d.after (.answered r a))) ∧ E d
  hold d _ K := d.guard = none ∧ d.waking = false ∧ ∀ g, K g (d.after (.took g))
  ask_mono := by
    intro d r K K' E E' hK hE h
    exact ⟨h.1, fun a => hK a _ (h.2.1 a), hE _ h.2.2⟩
  hold_mono := by
    intro d url K K' hK h
    exact ⟨h.1, h.2.1, fun g => hK g _ (h.2.2 g)⟩

namespace Program

variable {α : Type} {p p' : Program α} {Q : α → Duty → Prop} {d : Duty}

/-- What is left of a program after a move knows what it has to do then. -/
theorem Meets.after_duty {m : Move} (h : p.Meets dutiful d Q) (hm : Goes p m p') : p'.Meets dutiful (d.after m) Q := by
  cases hm with
  | ask a => exact h.2.1 a
  | within a => exact h.2.1 a
  | expire => exact h.2.2
  | take g => exact h.2.2 g
  | listen | yield | woken => exact h

/-- What a dutiful program asks for now is allowed. -/
theorem Meets.allows_duty {r : Request} (h : p.Meets dutiful d Q) (ha : p.Asks r) : d.Allows r := by
  cases ha with
  | ask => exact h.1
  | within => exact h.1

/-- Plain requests change nothing. -/
theorem Only.meets_duty (h : p.Only fun r => Duty.plain r = true) (hw : d.waking = false) :
    p.Meets dutiful d fun _ d' => d' = d := by
  induction p with
  | done a => rfl
  | ask r k ih =>
    refine ⟨Duty.allows_plain h.1 hw, fun a => ?_, trivial⟩
    rw [Duty.after_plain h.1]
    exact ih a (h.2 a)
  | within t r k ih =>
    refine ⟨Duty.allows_plain h.1 hw, fun a => ?_, ih none (h.2 none)⟩
    rw [Duty.after_plain h.1]
    exact ih (some a) (h.2 (some a))
  | hold url vigil k => nomatch h.1

/-- A plain request is dutiful while nobody is to be woken, and leaves what is owed as it was. -/
theorem meets_duty_request {r : Request} (h : Duty.plain r = true) (hw : d.waking = false) :
    (request r).Meets dutiful d fun _ d' => d' = d := Only.meets_duty (only_request h) hw

end Program

open Program

variable {ticks : List Nat}

/-! ## Ticks and unregistrations -/

/-- Giving a guard back is followed by waking those who wait. -/
theorem meets_duty_release (g : Guard) :
    (release g).Meets dutiful ⟨some g, false, ticks⟩ fun _ d => d = ⟨none, false, ticks⟩ :=
  ⟨⟨rfl, rfl⟩, fun _ => ⟨trivial, fun _ => rfl, trivial⟩, trivial⟩

/-- The requests of a tick's run are plain. -/
theorem Duty.plain_of_ofTick {r : Request} (h : r.ofTick = true) : plain r = true := by
  cases r with
  | now | service | resolve | fetch | snapshot | swap | apply | report => rfl
  | _ => nomatch h

/-- A tick gives back the guard it has in its hands, and wakes. -/
theorem Synchronizer.meets_duty_runTick (y : Synchronizer) (g : Guard) :
    (y.runTick g).Meets dutiful ⟨some g, false, ticks⟩ fun _ d => d = ⟨none, false, ticks⟩ := by
  rw [runTick_eq]
  refine (Only.meets_duty ((y.only_attempt g).mono fun _ => Duty.plain_of_ofTick) rfl).seq ?_
  rintro r _ rfl
  refine (meets_duty_release g).seq ?_
  rintro _ _ rfl
  rfl

/-- That a program asks only for what is plain. -/
abbrev Program.Plain {α : Type} (p : Program α) : Prop := p.Only fun r => Duty.plain r = true

/-- A program that is one plain request is plain. -/
theorem plain_request {r : Request} (h : Duty.plain r = true) : (request r).Plain := only_request h

/-- Cleaning up is plain: it leaves the guard to its caller. -/
theorem plain_cleanUp (url : AccessUrl) : (cleanUp url).Plain := by
  refine (plain_request (r := .remove url) rfl).bind ?_
  rintro (_ | service)
  · trivial
  · dsimp only
    split
    · trivial
    · refine (plain_request (r := .apply url _) rfl).bind ?_
      rintro (e | _) <;> trivial

/-- An unregistration takes a guard and gives it back. -/
theorem meets_duty_unregister (url : AccessUrl) :
    (unregister url).Meets dutiful ⟨none, false, ticks⟩ fun _ d => d = ⟨none, false, ticks⟩ := by
  refine ⟨rfl, rfl, fun g => ?_⟩
  show (cleanUp url >>= fun r => release g >>= fun _ => .done r).Meets dutiful ⟨some g, false, ticks⟩ _
  refine (Only.meets_duty (plain_cleanUp url) rfl).seq ?_
  rintro r _ rfl
  refine (meets_duty_release g).seq ?_
  rintro _ _ rfl
  rfl

/-! ## Discovery and rounds -/

/-- A pass of discovery gives back each guard it takes, and ends with nothing in its hands. -/
theorem meets_duty_discover (registry : AccessUrl) (auth : AuthMethod) :
    (discover registry auth).Meets dutiful ⟨none, false, ticks⟩ fun _ d => d = ⟨none, false, ticks⟩ := by
  have hheaders : Program.Plain (auth.headers fun name => Program.request (.resolve name)) := by
    refine Program.Only.bind ?_ fun _ => trivial
    cases auth with
    | none | basic username password | apiKey name value => trivial
    | vault name =>
      refine (plain_request (r := .resolve name) rfl).bind ?_
      rintro (_ | value) <;> trivial
  have hregister : ∀ urls, (Discovery.registerNew registry auth urls).Plain := by
    intro urls
    induction urls with
    | nil => trivial
    | cons url rest ih => exact (plain_request (r := .register _) rfl).bind fun _ => ih.bind fun _ => trivial
  have hunregister : ∀ urls, (Discovery.unregisterAll urls).Meets dutiful ⟨none, false, ticks⟩ fun _ d => d = ⟨none, false, ticks⟩ := by
    intro urls
    induction urls with
    | nil => rfl
    | cons url rest ih =>
      refine (meets_duty_unregister url).seq ?_
      rintro _ _ rfl
      exact ih
  refine (hheaders.meets_duty rfl).seq ?_
  rintro (e | headers) _ rfl
  · rfl
  refine (meets_duty_request (r := .advertised registry headers) rfl rfl).seq ?_
  rintro (e | urls) _ rfl
  · rfl
  refine Meets.seq (Q := fun _ d => d = ⟨none, false, ticks⟩) ?_ ?_
  · refine ((hregister _).meets_duty rfl).seq ?_
    rintro added _ rfl
    refine (meets_duty_request (r := .services) rfl rfl).seq ?_
    rintro services _ rfl
    refine (hunregister _).seq ?_
    rintro _ _ rfl
    rfl
  · rintro _ _ rfl
    rfl

namespace Scheduler

/-- A tick that is started gets the guard, and is then waited for in its turn. -/
theorem meets_duty_startTick (url : AccessUrl) :
    (startTick url).Meets dutiful ⟨none, false, ticks⟩ fun task d => d = ⟨none, false, ticks ++ task.toList⟩ := by
  refine ⟨⟨rfl, rfl⟩, ?_, trivial⟩
  rintro (_ | g)
  · show _ = _
    rw [Option.toList_none, List.append_nil]
    rfl
  · exact ⟨⟨rfl, rfl⟩, fun n => rfl, trivial⟩

/-- What was started first is waited for first. -/
theorem meets_duty_finishTick (task : Option Nat) (ticks : List Nat) :
    (finishTick task).Meets dutiful ⟨none, false, task.toList ++ ticks⟩ fun _ d => d = ⟨none, false, ticks⟩ := by
  cases task with
  | none => rfl
  | some n =>
    refine ⟨⟨rfl, rfl, rfl⟩, ?_, trivial⟩
    rintro (reason | r) <;> rfl

/-- The ticks that are started are owed in the order of the services. -/
theorem meets_duty_startTicks (services : List Service) :
    (startTicks services).Meets dutiful ⟨none, false, ticks⟩ fun tasks d => d = ⟨none, false, ticks ++ tasks.filterMap Prod.snd⟩ := by
  induction services generalizing ticks with
  | nil =>
    show _ = _
    rw [List.filterMap_nil, List.append_nil]
  | cons service rest ih =>
    refine (meets_duty_startTick service.url).seq ?_
    rintro task _ rfl
    refine ih.seq ?_
    rintro tasks _ rfl
    show _ = _
    cases task <;> simp

/-- Waiting for all of them, in that order, leaves none. -/
theorem meets_duty_finishTicks (tasks : List (AccessUrl × Option Nat)) (ticks : List Nat) :
    (finishTicks tasks).Meets dutiful ⟨none, false, tasks.filterMap Prod.snd ++ ticks⟩ fun _ d => d = ⟨none, false, ticks⟩ := by
  induction tasks with
  | nil => rfl
  | cons x rest ih =>
    obtain ⟨url, task⟩ := x
    have hfirst : (((url, task) :: rest).filterMap Prod.snd) ++ ticks = task.toList ++ (rest.filterMap Prod.snd ++ ticks) := by
      cases task <;> simp
    rw [hfirst]
    refine (meets_duty_finishTick task _).seq ?_
    rintro outcome _ rfl
    refine ih.seq ?_
    rintro outcomes _ rfl
    rfl

/-- A round ends with nothing owed: each tick it started it has waited for. -/
theorem meets_duty_runOnce (s : Scheduler) :
    s.runOnce.Meets dutiful ⟨none, false, []⟩ fun _ d => d = ⟨none, false, []⟩ := by
  have hdiscover : ∀ watched, (discoverAll watched).Meets dutiful ⟨none, false, []⟩ fun _ d => d = ⟨none, false, []⟩ := by
    intro watched
    induction watched with
    | nil => rfl
    | cons w rest ih =>
      refine (meets_duty_discover w.url w.auth).seq ?_
      rintro _ _ rfl
      exact ih
  have hticks : Program.Meets dutiful (do finishTicks (← startTicks (← request .services))) ⟨none, false, []⟩
      fun _ d => d = ⟨none, false, []⟩ := by
    refine (meets_duty_request (r := .services) rfl rfl).seq ?_
    rintro services _ rfl
    refine (meets_duty_startTicks services).seq ?_
    rintro tasks _ rfl
    have hfinish := meets_duty_finishTicks tasks []
    rwa [List.append_nil] at hfinish
  unfold runOnce
  split
  · refine (hdiscover _).seq ?_
    rintro _ _ rfl
    exact hticks
  · exact hticks

/-- So does a registration with the tick it starts. -/
theorem meets_duty_register (service : Service) :
    (register service).Meets dutiful ⟨none, false, []⟩ fun _ d => d = ⟨none, false, []⟩ := by
  refine (meets_duty_request (r := .register service) rfl rfl).seq ?_
  rintro (_ | _) _ rfl
  · rfl
  refine (meets_duty_startTick service.url).seq ?_
  rintro task _ rfl
  have hfinish := meets_duty_finishTick task []
  rw [List.append_nil] at hfinish
  refine hfinish.seq ?_
  rintro _ _ rfl
  rfl

end Scheduler

/-! ## Tasks -/

/-- What a new task has to do: a tick's is handed its guard. -/
def Origin.duty (origin : Origin) : Duty := ⟨origin.guards.head?, false, []⟩

/-- Every operation and every job does what it has to. -/
theorem Origin.dutiful (s : Scheduler) (origin : Origin) :
    (origin.program s).Meets Engine.dutiful origin.duty fun _ d => d = ⟨none, false, []⟩ := by
  rcases origin with op | g | _
  · cases op with
    | register service =>
      refine (meets_duty_request (r := .register service) rfl rfl).seq ?_
      rintro _ _ rfl
      rfl
    | synchronize url =>
      refine Meets.seq (Q := fun _ d => d = ⟨none, false, []⟩) ?_ ?_
      · refine ⟨⟨rfl, rfl⟩, ?_, trivial⟩
        rintro (_ | g)
        · rfl
        · refine (s.synchronizer.meets_duty_runTick g).seq ?_
          rintro _ _ rfl
          rfl
      · rintro (reason | outcome) _ rfl <;> rfl
    | unregister url =>
      refine (meets_duty_unregister url).seq ?_
      rintro _ _ rfl
      rfl
    | discover registry auth =>
      refine (meets_duty_discover registry auth).seq ?_
      rintro _ _ rfl
      rfl
    | round =>
      refine s.meets_duty_runOnce.seq ?_
      rintro _ _ rfl
      rfl
    | schedule service =>
      refine (Scheduler.meets_duty_register service).seq ?_
      rintro _ _ rfl
      rfl
  · -- the task of a tick has the guard from its start, and gives it back before its permit
    refine (meets_duty_request (r := .queue) rfl rfl).seq ?_
    rintro ticket _ rfl
    refine (meets_duty_request (r := .permit ticket) rfl rfl).seq ?_
    rintro _ _ rfl
    refine (s.synchronizer.meets_duty_runTick g).seq ?_
    rintro r _ rfl
    refine (meets_duty_request (r := .leave) rfl rfl).seq ?_
    rintro _ _ rfl
    rfl
  · refine s.meets_duty_runOnce.seq ?_
    rintro _ _ rfl
    rfl

/-- So does what is left of a task that was cut short, but that it waits for no ticks. -/
theorem meets_duty_unwind (reason : String) (permits : Nat) (guard : Option Guard) :
    (unwind reason permits guard.toList).Meets dutiful ⟨guard, false, ticks⟩ fun _ d => d = ⟨none, false, ticks⟩ := by
  have hsurrender : (surrender reason permits).Meets dutiful ⟨none, false, ticks⟩ fun _ d => d = ⟨none, false, ticks⟩ := by
    induction permits with
    | zero => rfl
    | succ n ih => exact ⟨rfl, fun _ => ih, trivial⟩
  cases guard with
  | none => exact hsurrender
  | some g =>
    refine (meets_duty_release g).seq ?_
    rintro _ _ rfl
    exact hsurrender

/-- The guard in the hands of a task after an answer is the one that it holds then. -/
theorem Duty.guards_after {d : Duty} {r : Request} (h : d.Allows r) (a : r.Answer) :
    (Move.answered r a).guards d.guard.toList = (d.after (.answered r a)).guard.toList := by
  cases r with
  | tryMark url =>
    cases a with
    | none => rfl
    | some g =>
      show g :: d.guard.toList = [g]
      rw [h.1, Option.toList_none]
  | unmark g =>
    show d.guard.toList.erase g = []
    rw [h.1, Option.toList_some, List.erase_cons_head]
  | spawn job =>
    cases job with
    | tick g =>
      show d.guard.toList.erase g = []
      rw [h.1, Option.toList_some, List.erase_cons_head]
    | round => exact h.elim
  | _ => rfl

namespace Task

/-- What a task has yet to do. -/
def duty (t : Task) : Duty := t.moves.foldl Duty.after t.origin.duty

theorem duty_move (t : Task) (m : Move) (p : Program Report) : (t.move m p).duty = t.duty.after m := by simp [duty, move]

/-- A task that does what it has to, and holds no guard but the one in its hands. One that was cut short leaves its ticks alone. -/
structure Dutiful (t : Task) : Prop where
  program : t.program.Meets dutiful t.duty fun _ d => d.guard = none ∧ d.waking = false ∧ (t.cut = none → d.ticks = [])
  guards : t.guards = t.duty.guard.toList

variable {t : Task}

/-- A task starts with what its origin puts into its hands, and its program is dutiful from there. -/
theorem dutiful_start (s : Scheduler) (id : Nat) (origin : Origin) : (Task.start s id origin).Dutiful := by
  refine ⟨(origin.dutiful s).mono ?_, ?_⟩
  · rintro _ _ rfl
    exact ⟨rfl, rfl, fun _ => rfl⟩
  · rcases origin with op | g | _ <;> rfl

/-- A dutiful task stays dutiful, whatever it is answered. -/
theorem Dutiful.move {m : Move} {p : Program Report} (h : t.Dutiful) (hm : t.program.Goes m p) : (t.move m p).Dutiful := by
  refine ⟨?_, ?_⟩
  · rw [duty_move]
    exact h.program.after_duty hm
  · rw [guards_move, duty_move, h.guards]
    have hprogram := h.program
    generalize t.program = q at hm hprogram
    cases hm with
    | ask a => exact Duty.guards_after hprogram.1 a
    | within a => exact Duty.guards_after hprogram.1 a
    | take g =>
      show g :: t.duty.guard.toList = [g]
      rw [hprogram.1, Option.toList_none]
    | expire | listen | yield | woken => rfl

/-- Whoever has yet to wake those who wait cannot be cut short before that. -/
theorem Dutiful.waking_of_interruptible (h : t.Dutiful) (hi : t.program.Interruptible) : t.duty.waking = false := by
  have hprogram := h.program
  generalize t.program = q at hi hprogram
  cases hi with
  | wait => exact hprogram.2.1
  | request ha hr =>
    refine Bool.eq_false_iff.2 fun hw => ?_
    obtain rfl := Duty.eq_wake_of_waking (hprogram.allows_duty ha) hw
    nomatch hr

/-- Where a task may be cut short it leaves no waking undone, and what is left of it gives its guards back. -/
theorem Dutiful.cut (h : t.Dutiful) (hi : t.program.Interruptible) (reason : String) :
    Dutiful { t with cut := some reason, program := unwind reason t.permits t.guards } := by
  have hduty : t.duty = ⟨t.duty.guard, false, t.duty.ticks⟩ := by
    rw [← h.waking_of_interruptible hi]
  refine ⟨?_, h.guards⟩
  show (unwind reason t.permits t.guards).Meets Engine.dutiful t.duty _
  rw [h.guards, hduty]
  refine (meets_duty_unwind reason t.permits t.duty.guard).mono ?_
  rintro _ _ rfl
  exact ⟨rfl, rfl, nofun⟩

/-- A task that is done has nothing more to do. -/
theorem Dutiful.over (h : t.Dutiful) {report : Report} (hr : t.program = .done report) :
    t.duty.guard = none ∧ t.duty.waking = false ∧ (t.cut = none → t.duty.ticks = []) := by
  have hprogram := h.program
  rwa [hr] at hprogram

end Task

/-- In every state of every run from a state without tasks, the tasks do what they have to, and those that have ended did it. -/
theorem State.Run.dutiful {s : Scheduler} {start x : State} {es : List Event} (h : State.Run s start es x) (ht : start.tasks = [])
    (he : start.ended = []) : ∀ t ∈ x.tasks ++ x.ended, t.Dutiful := by
  refine h.invariant (P := fun x => ∀ t ∈ x.tasks ++ x.ended, t.Dutiful) (by simp [ht, he]) fun e _ x y hx hs => ?_
  obtain ⟨htasks, hended⟩ := List.forall_mem_append.1 hx
  refine List.forall_mem_append.2 ⟨?_, fun t ht => (hs.of_mem_ended ht).elim (hended t) (htasks t)⟩
  exact hs.forall_tasks htasks (Task.dutiful_start s) (fun t ht m p hp => ht.move hp.goes) fun t ht hi reason => ht.cut hi reason

end CatalogSync.Engine
