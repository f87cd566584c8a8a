import CatalogSync.Proofs.Engine.Exclusion
import CatalogSync.Proofs.Engine.Ledger
import CatalogSync.Proofs.Engine.Permits
import CatalogSync.Proofs.Engine.Vocabulary

/-!
# Throttled ticks

A tick in a task of its own queues for a permit, runs once it has one, gives its guard back and then its permit, and is over
(`Stage`); so it does where it is cut short. `State.Metered` accounts for the permits of all tasks, and no step breaks it. So in every
state of every run no more ticks run than there are permits, no permit is lost, and each URL has one tick at most that is queued or
runs (`State.Run.throttles`).
-/

namespace CatalogSync.Engine

/-! ## The stages of a tick -/

/-- How far a tick in a task of its own has got, with its ticket. -/
inductive Stage where
  | new
  | queued (ticket : Nat)
  | running (ticket : Nat)
  /-- The guard is given back. -/
  | leaving (ticket : Nat)
  /-- So is the permit. -/
  | left
  deriving DecidableEq

namespace Stage

/-- The ticket that is out. -/
def ticket? : Stage → Option Nat
  | new | left => none
  | queued ticket | running ticket | leaving ticket => some ticket

/-- The ticket whose permit the tick has taken. -/
def granted? : Stage → Option Nat
  | running ticket | leaving ticket => some ticket
  | new | queued _ | left => none

/-- The guards that are held, if the tick was handed the given one. -/
def guards (g : Guard) : Stage → List Guard
  | new | queued _ | running _ => [g]
  | leaving _ | left => []

/-- The number of permits that the tick has or queues for. -/
def permits : Stage → Nat
  | new | left => 0
  | queued _ | running _ | leaving _ => 1

/-- What a tick may ask for. -/
def Allows (g : Guard) : Stage → Request → Prop
  | new, .queue => True
  | queued ticket, .permit ticket' => ticket' = ticket
  | running _, .unmark g' => g' = g
  | running _, r => r.ofTick = true
  | leaving _, .wake | leaving _, .leave => True
  | _, _ => False

/-- The stage after a move. -/
def after : Stage → Move → Stage
  | new, .answered .queue ticket => queued ticket
  | queued ticket, .answered (.permit _) _ => running ticket
  | running ticket, .answered (.unmark _) _ => leaving ticket
  | leaving _, .answered .leave _ => left
  | stage, _ => stage

/-- A permit is granted to a tick that has a ticket. -/
theorem ticket?_eq_of_granted? {stage : Stage} {ticket : Nat} (h : stage.granted? = some ticket) : stage.ticket? = some ticket := by
  cases stage with
  | running | leaving => exact h
  | new | queued | left => nomatch h

/-- The run of a tick leaves the tick where it is. -/
theorem allows_running {g : Guard} {ticket : Nat} {r : Request} (h : r.ofTick = true) :
    (running ticket).Allows g r ∧ ∀ a, (running ticket).after (.answered r a) = running ticket := by
  cases r with
  | now | service | resolve | fetch | snapshot | swap | apply | report => exact ⟨rfl, fun _ => rfl⟩
  | sleep | services | register | remove | tryMark | unmark | wake | spawn | join | queue | permit | leave | advertised => nomatch h

/-- What a tick holds after an answer, guards and permits, is what it holds at the stage after it. -/
theorem holdings_after {g : Guard} {stage : Stage} {r : Request} (h : stage.Allows g r) (a : r.Answer) :
    (Move.answered r a).guards (stage.guards g) = (stage.after (.answered r a)).guards g ∧
      (Move.answered r a).permits stage.permits = (stage.after (.answered r a)).permits := by
  cases stage with
  | new =>
    cases r with
    | queue => exact ⟨rfl, rfl⟩
    | _ => exact h.elim
  | queued ticket =>
    cases r with
    | permit => exact ⟨rfl, rfl⟩
    | _ => exact h.elim
  | running ticket =>
    cases r with
    | unmark g' =>
      obtain rfl : g' = g := h
      exact ⟨List.erase_cons_head g' [], rfl⟩
    | now | service | resolve | fetch | snapshot | swap | apply | report => exact ⟨rfl, rfl⟩
    | _ => nomatch h
  | leaving ticket =>
    cases r with
    | wake | leave => exact ⟨rfl, rfl⟩
    | _ => exact h.elim
  | left => cases r <;> exact h.elim

end Stage

/-! ## Programs that go through the stages -/

/-- Asking for what a tick with the given guard may ask for, stage by stage. -/
def staged (g : Guard) : Calculus Stage where
  ask stage r K E := stage.Allows g r ∧ (∀ a, K a (stage.after (.answered r a))) ∧ E stage
  hold _ _ _ := False
  ask_mono := by
    intro stage r K K' E E' hK hE h
    exact ⟨h.1, fun a => hK a _ (h.2.1 a), hE _ h.2.2⟩
  hold_mono := fun _ h => h

variable {g : Guard}

namespace Program

variable {α : Type} {p p' : Program α} {Q : α → Stage → Prop} {stage : Stage}

/-- What is left of a program after a move meets the condition at the stage after it. -/
theorem Meets.after {m : Move} (h : p.Meets (staged g) stage Q) (hm : Goes p m p') : p'.Meets (staged g) (stage.after m) Q := by
  cases hm with
  | ask a => exact h.2.1 a
  | within a => exact h.2.1 a
  | expire =>
    have hsame : ∀ r, stage.after (.expired r) = stage := by cases stage <;> exact fun _ => rfl
    rw [hsame]
    exact h.2.2
  | listen | take | yield | woken => exact h.elim

/-- What a tick asks for now its stage allows. -/
theorem Meets.allows {r : Request} (h : p.Meets (staged g) stage Q) (ha : p.Asks r) : stage.Allows g r := by
  cases ha with
  | ask => exact h.1
  | within => exact h.1

/-- Requests of a tick are made while it runs, and leave it running. -/
theorem Only.meets_running {ticket : Nat} (h : p.Only fun r => r.ofTick = true) :
    p.Meets (staged g) (.running ticket) fun _ stage => stage = .running ticket := by
  induction p with
  | done a => rfl
  | ask r k ih =>
    obtain ⟨hr, hk⟩ := h
    obtain ⟨hallows, hafter⟩ := Stage.allows_running hr
    refine ⟨hallows, fun a => ?_, trivial⟩
    rw [hafter]
    exact ih a (hk a)
  | within d r k ih =>
    obtain ⟨hr, hk⟩ := h
    obtain ⟨hallows, hafter⟩ := Stage.allows_running hr
    refine ⟨hallows, fun a => ?_, ih none (hk none)⟩
    rw [hafter]
    exact ih (some a) (hk (some a))
  | hold url vigil k => nomatch h.1

end Program

/-- A tick in a task of its own goes through its stages. -/
theorem Scheduler.meets_work (s : Scheduler) (g : Guard) :
    (s.work (.tick g)).Meets (staged g) .new fun _ stage => stage = .left := by
  have hrun : ∀ ticket, (s.synchronizer.runTick g).Meets (staged g) (.running ticket) fun _ stage => stage = .leaving ticket := by
    intro ticket
    rw [Synchronizer.runTick_eq]
    refine (s.synchronizer.only_attempt g).meets_running.seq ?_
    rintro r _ rfl
    exact ⟨rfl, fun _ => ⟨trivial, fun _ => rfl, trivial⟩, trivial⟩
  refine ⟨trivial, fun ticket => ?_, trivial⟩
  refine ⟨rfl, fun _ => ?_, trivial⟩
  show Program.Meets (staged g) (s.synchronizer.runTick g >>= _) (.running ticket) _
  refine (hrun ticket).seq ?_
  rintro r _ rfl
  exact ⟨trivial, fun _ => rfl, trivial⟩

/-- What is left of a running tick that was cut short goes through the last of them. -/
theorem meets_unwind_running (reason : String) (ticket : Nat) :
    (unwind reason 1 [g]).Meets (staged g) (.running ticket) fun _ stage => stage = .left :=
  ⟨rfl, fun _ => ⟨trivial, fun _ => ⟨trivial, fun _ => rfl, trivial⟩, trivial⟩, trivial⟩

/-- A tick is only cut short while it runs. -/
theorem Program.Interruptible.running {α : Type} {p : Program α} {Q : α → Stage → Prop} {stage : Stage} (hi : p.Interruptible)
    (h : p.Meets (staged g) stage Q) : ∃ ticket, stage = .running ticket := by
  cases hi with
  | wait => exact h.elim
  | @request _ r ha hr =>
    have hallows := h.allows ha
    cases stage with
    | running ticket => exact ⟨ticket, rfl⟩
    | new | queued | leaving | left => cases r <;> first | exact hallows.elim | nomatch hr

namespace Task

/-! ## Tasks and their permits -/

/-- How far a task has got, if it is a tick's. -/
def stage (t : Task) : Stage := t.moves.foldl Stage.after .new

theorem stage_move (t : Task) (m : Move) (p : Program Report) : (t.move m p).stage = t.stage.after m := by
  simp [stage, move]

theorem permits_move (t : Task) (m : Move) (p : Program Report) : (t.move m p).permits = m.permits t.permits := by
  simp [permits, move]

/-- A tick's task that has the guard and the permit of its stage, and goes on from there. -/
structure Staged (g : Guard) (t : Task) : Prop where
  program : t.program.Meets (staged g) t.stage fun _ stage => stage = .left
  guards : t.guards = t.stage.guards g
  permits : t.permits = t.stage.permits

/-- A task that has nothing to do with permits. -/
structure Unmetered (t : Task) : Prop where
  program : t.program.Unmetered
  permits : t.permits = 0
  stage : t.stage = .new

/-- A task that deals with permits only as a tick does. -/
def Metered (t : Task) : Prop :=
  match t.origin.tick? with
  | some g => t.Staged g
  | none => t.Unmetered

/-- A task starts with no permit, and a tick's task with its first stage ahead. -/
theorem metered_start (s : Scheduler) (id : Nat) (origin : Origin) : (Task.start s id origin).Metered := by
  unfold Metered
  split
  · rename_i g ho
    cases origin with
    | operation op => nomatch ho
    | job job =>
      cases job with
      | round => nomatch ho
      | tick g' =>
        cases ho
        exact ⟨s.meets_work g, rfl, rfl⟩
  · rename_i ho
    exact ⟨origin.unmetered s ho, rfl, rfl⟩

/-- A request that is not about permits is none that leads a new task on. -/
theorem Unmetered.move {t : Task} (h : t.Unmetered) {m : Move} {p : Program Report} (hm : t.program.Goes m p) :
    (t.move m p).Unmetered := by
  have hsame : m.permits t.permits = t.permits ∧ Stage.new.after m = .new := by
    cases m with
    | answered r a =>
      have hr : r.metered = false := h.program.asks (hm.asks rfl)
      cases r with
      | queue | permit | leave => nomatch hr
      | _ => exact ⟨rfl, rfl⟩
    | expired | listened | took | yielded | woken => exact ⟨rfl, rfl⟩
  refine ⟨h.program.goes hm, ?_, ?_⟩
  · rw [permits_move, hsame.1, h.permits]
  · rw [stage_move, h.stage, hsame.2]

/-- A tick's task goes on from stage to stage. -/
theorem Staged.move {t : Task} (h : t.Staged g) {m : Move} {p : Program Report} (hm : t.program.Goes m p) :
    (t.move m p).Staged g := by
  have hafter : m.guards (t.stage.guards g) = (t.stage.after m).guards g ∧ m.permits t.stage.permits = (t.stage.after m).permits := by
    cases m with
    | answered r a => exact Stage.holdings_after (h.program.allows (hm.asks rfl)) a
    | expired r =>
      have hsame : t.stage.after (.expired r) = t.stage := by cases t.stage <;> rfl
      rw [hsame]
      exact ⟨rfl, rfl⟩
    | listened | took | yielded | woken =>
      have hprogram := h.program
      generalize t.program = q at hm hprogram
      cases hm
      exact hprogram.elim
  refine ⟨?_, ?_, ?_⟩
  · rw [stage_move]
    exact h.program.after hm
  · rw [guards_move, stage_move, h.guards, hafter.1]
  · rw [permits_move, stage_move, h.permits, hafter.2]

/-- A metered task stays so, whatever it is answered. -/
theorem Metered.move {t : Task} (h : t.Metered) {m : Move} {p : Program Report} (hm : t.program.Goes m p) :
    (t.move m p).Metered := by
  unfold Metered at h ⊢
  show match t.origin.tick? with
    | some g => (t.move m p).Staged g
    | none => (t.move m p).Unmetered
  split at h
  · exact h.move hm
  · exact h.move hm

/-- A task that is cut short gives its permits back as a tick does. -/
theorem Metered.cut {t : Task} (h : t.Metered) (hi : t.program.Interruptible) (reason : String) :
    Metered { t with cut := some reason, program := unwind reason t.permits t.guards } := by
  unfold Metered at h ⊢
  dsimp only
  split at h
  · rename_i g _
    obtain ⟨ticket, hstage⟩ := hi.running h.program
    refine ⟨?_, h.guards, h.permits⟩
    show (unwind reason t.permits t.guards).Meets (staged g) t.stage _
    rw [h.permits, h.guards, hstage]
    exact meets_unwind_running reason ticket
  · refine ⟨?_, h.permits, h.stage⟩
    show (unwind reason t.permits t.guards).Unmetered
    rw [h.permits]
    induction t.guards with
    | nil => trivial
    | cons g gs ih => exact (unmetered_release g).bind fun _ => ih

/-- The ticket that a task has out, if it is a tick's. -/
def ticket? (t : Task) : Option Nat := t.stage.ticket?

/-- Whether a task is a tick's that has its permit, so that the tick runs or leaves. -/
def runs (t : Task) : Bool := t.stage.granted?.isSome

/-- The tickets of tasks, that of one task first. -/
theorem perm_tickets (before after : List Task) (t : Task) :
    ((before ++ t :: after).filterMap ticket?).Perm (t.ticket?.toList ++ (before ++ after).filterMap ticket?) := by
  refine (List.perm_middle.filterMap ticket?).trans ?_
  cases ht : t.ticket? with
  | none => rw [List.filterMap_cons_none ht]; exact .refl _
  | some ticket => rw [List.filterMap_cons_some ht]; exact .refl _

end Task

variable {w w' : World}

/-! ## Permits and tickets -/

/-- The tickets that are out, if some of them are those of a tick at a stage, and what it knows of its own. -/
structure Stage.Balanced (p : Permits) (n : Nat) (others : List Nat) (stage : Stage) : Prop where
  tickets : p.Balanced n (stage.ticket?.toList ++ others)
  granted : ∀ ticket, stage.granted? = some ticket → ticket ∉ p.queue

/-- A move of a tick keeps the permits in balance. -/
theorem Stage.Balanced.after {n : Nat} {others : List Nat} {stage : Stage} {r : Request} {a : r.Answer}
    (h : stage.Balanced w.permits n others) (hr : stage.Allows g r) (ha : (Move.answered r a).Fair w) :
    (stage.after (.answered r a)).Balanced ((Move.answered r a).permitted w.permits) n others := by
  cases stage with
  | new =>
    cases r with
    | queue =>
      obtain rfl : a = w.permits.ask.1 := ha
      exact ⟨h.tickets.ask, nofun⟩
    | _ => exact hr.elim
  | queued ticket =>
    cases r with
    | permit ticket' =>
      obtain rfl : ticket' = ticket := hr
      refine ⟨h.tickets, fun ticket he => ?_⟩
      cases he
      exact ha
    | _ => exact hr.elim
  | running ticket =>
    cases r with
    | unmark | now | service | resolve | fetch | snapshot | swap | apply | report => exact ⟨h.tickets, h.granted⟩
    | _ => nomatch hr
  | leaving ticket =>
    cases r with
    | wake => exact h
    | leave => exact ⟨h.tickets.release (h.granted ticket rfl), nofun⟩
    | _ => exact hr.elim
  | left => cases r <;> exact hr.elim

/-- The permits that others have are still theirs after a move. -/
theorem Permits.Balanced.not_mem_permitted {p : Permits} {n : Nat} {tickets : List Nat} (h : p.Balanced n tickets) (m : Move)
    {ticket : Nat} (ht : ticket ∈ tickets) (hq : ticket ∉ p.queue) : ticket ∉ (m.permitted p).queue := by
  cases m with
  | answered r a =>
    cases r with
    | queue => exact h.not_mem_ask ht hq
    | leave => exact Permits.not_mem_release hq
    | _ => exact hq
  | _ => exact hq

/-- A move of a task is one that its stage allows, or it has nothing to do with permits. -/
theorem Task.Metered.goes {t : Task} (h : t.Metered) {m : Move} {p : Program Report} (hm : t.program.Goes m p) :
    (∃ g r a, m = .answered r a ∧ t.stage.Allows g r) ∨ ((∀ q, m.permitted q = q) ∧ t.stage.after m = t.stage) := by
  unfold Task.Metered at h
  split at h
  · rename_i g _
    cases m with
    | answered r a => exact Or.inl ⟨g, r, a, rfl, h.program.allows (hm.asks rfl)⟩
    | expired r => exact Or.inr ⟨fun _ => rfl, by cases t.stage <;> rfl⟩
    | listened | took | yielded | woken => exact Or.inr ⟨fun _ => rfl, by cases t.stage <;> rfl⟩
  · refine Or.inr ?_
    rw [h.stage]
    cases m with
    | answered r a =>
      have hr : r.metered = false := h.program.asks (hm.asks rfl)
      cases r with
      | queue | permit | leave => nomatch hr
      | _ => exact ⟨fun _ => rfl, rfl⟩
    | expired | listened | took | yielded | woken => exact ⟨fun _ => rfl, rfl⟩

/-! ## What a step preserves -/

/-- A state in which all permits are accounted for. -/
structure State.Metered (n : Nat) (x : State) : Prop where
  balanced : x.world.permits.Balanced n (x.tasks.filterMap Task.ticket?)
  /-- A tick that has taken its permit was granted it. -/
  granted : ∀ t ∈ x.tasks, ∀ ticket, t.stage.granted? = some ticket → ticket ∉ x.world.permits.queue
  tasks : ∀ t ∈ x.tasks, t.Metered

namespace State.Metered

variable {n : Nat} {before after past : List Task} {t : Task}

/-- A move of one task leaves all permits accounted for. -/
theorem move {m : Move} {p : Program Report} (h : State.Metered n ⟨w, before ++ t :: after, past⟩)
    (hs : Program.Step w t.program m w' p) : State.Metered n ⟨w', before ++ t.move m p :: after, past⟩ := by
  have hfair := hs.booked.fair
  have hpermits := hs.booked.permits
  have ht : t ∈ before ++ t :: after := List.mem_append_right _ List.mem_cons_self
  have hstage : t.stage.Balanced w.permits n ((before ++ after).filterMap Task.ticket?) :=
    ⟨h.balanced.perm (Task.perm_tickets before after t), h.granted t ht⟩
  have hafter : (t.stage.after m).Balanced w'.permits n ((before ++ after).filterMap Task.ticket?) := by
    rw [hpermits]
    rcases (h.tasks t ht).goes hs.goes with ⟨g, r, a, rfl, hr⟩ | ⟨hsame, hstay⟩
    · exact hstage.after hr hfair
    · rw [hsame, hstay]
      exact hstage
  rw [← t.stage_move m p] at hafter
  refine ⟨hafter.tickets.perm (Task.perm_tickets before after _).symm, ?_, ?_⟩
  · have hold : ∀ u ∈ before ++ t :: after, ∀ ticket, u.stage.granted? = some ticket → ticket ∉ w'.permits.queue := by
      intro u hu ticket hg
      rw [hpermits]
      refine h.balanced.not_mem_permitted m ?_ (h.granted u hu ticket hg)
      exact List.mem_filterMap.2 ⟨u, hu, Stage.ticket?_eq_of_granted? hg⟩
    obtain ⟨hbefore, hrest⟩ := List.forall_mem_append.1 hold
    exact List.forall_mem_append.2 ⟨hbefore, List.forall_mem_cons.2 ⟨hafter.granted, (List.forall_mem_cons.1 hrest).2⟩⟩
  · obtain ⟨hbefore, hrest⟩ := List.forall_mem_append.1 h.tasks
    obtain ⟨hat, hrest⟩ := List.forall_mem_cons.1 hrest
    exact List.forall_mem_append.2 ⟨hbefore, List.forall_mem_cons.2 ⟨hat.move hs.goes, hrest⟩⟩

/-- A new task has no ticket. -/
theorem start {ts : List Task} (h : State.Metered n ⟨w, ts, past⟩) (s : Scheduler) (id : Nat) (origin : Origin)
    (hp : w'.permits = w.permits) : State.Metered n ⟨w', ts ++ [.start s id origin], past⟩ := by
  refine ⟨?_, ?_, ?_⟩
  · show w'.permits.Balanced n _
    rw [hp, List.filterMap_append]
    exact h.balanced.perm (by rw [List.filterMap_cons_none rfl, List.filterMap_nil, List.append_nil])
  · refine List.forall_mem_append.2 ⟨?_, List.forall_mem_singleton.2 nofun⟩
    show ∀ u ∈ ts, ∀ ticket, u.stage.granted? = some ticket → ticket ∉ w'.permits.queue
    rw [hp]
    exact h.granted
  · exact List.forall_mem_append.2 ⟨h.tasks, List.forall_mem_singleton.2 (Task.metered_start s id origin)⟩

/-- A task that ends has no ticket. -/
theorem finish {report : Report} (h : State.Metered n ⟨w, before ++ t :: after, past⟩) (hr : t.program = .done report)
    (hp : w'.permits = w.permits) : State.Metered n ⟨w', before ++ after, past ++ [t]⟩ := by
  have ht : t ∈ before ++ t :: after := List.mem_append_right _ List.mem_cons_self
  have hsub : before ++ after ⊆ before ++ t :: after :=
    List.append_subset.2 ⟨List.subset_append_left _ _, fun u hu => List.mem_append_right _ (List.mem_cons_of_mem t hu)⟩
  have hnone : t.ticket? = none := by
    have hmetered := h.tasks t ht
    unfold Task.Metered at hmetered
    split at hmetered
    · have hleft : t.stage = .left := by
        have hprogram := hmetered.program
        rw [hr] at hprogram
        exact hprogram
      exact congrArg Stage.ticket? hleft
    · exact congrArg Stage.ticket? hmetered.stage
  have hbalanced := h.balanced.perm (Task.perm_tickets before after t)
  rw [hnone] at hbalanced
  refine ⟨?_, ?_, fun u hu => h.tasks u (hsub hu)⟩
  · show w'.permits.Balanced n _
    rw [hp]
    exact hbalanced
  · intro u hu ticket hg
    show ticket ∉ w'.permits.queue
    rw [hp]
    exact h.granted u (hsub hu) ticket hg

/-- A task that is cut short has its ticket still. -/
theorem cut (h : State.Metered n ⟨w, before ++ t :: after, past⟩) (hi : t.program.Interruptible) (reason : String) :
    State.Metered n ⟨w, before ++ { t with cut := some reason, program := unwind reason t.permits t.guards } :: after, past⟩ := by
  refine ⟨?_, ?_, ?_⟩
  · have hbalanced := h.balanced
    rw [List.filterMap_append, List.filterMap_cons] at hbalanced ⊢
    exact hbalanced
  · obtain ⟨hbefore, hrest⟩ := List.forall_mem_append.1 h.granted
    exact List.forall_mem_append.2 ⟨hbefore, List.forall_mem_cons.2 (List.forall_mem_cons.1 hrest)⟩
  · obtain ⟨hbefore, hrest⟩ := List.forall_mem_append.1 h.tasks
    obtain ⟨hat, hrest⟩ := List.forall_mem_cons.1 hrest
    exact List.forall_mem_append.2 ⟨hbefore, List.forall_mem_cons.2 ⟨hat.cut hi reason, hrest⟩⟩

/-- No step loses a permit. -/
theorem step {s : Scheduler} {x y : State} {e : Event} (h : x.Metered n) (hs : State.Step s x e y) : y.Metered n := by
  cases hs with
  | call w ts past op => exact h.start s w.taskCount (.operation op) rfl
  | begin hj => exact h.start s _ _ rfl
  | move hp => exact h.move hp
  | @finish w before after past t report hr =>
    refine h.finish hr ?_
    cases report.tick? <;> rfl
  | cut hi reason => exact h.cut hi reason
  | pass w ts past t => exact ⟨h.balanced, h.granted, h.tasks⟩

/-- A tick goes on as its stage allows, and is over at the last. -/
theorem staged {x : State} (h : x.Metered n) (ht : t ∈ x.tasks) (hg : t.origin.tick? = some g) :
    (∀ r, t.program.Asks r → t.stage.Allows g r) ∧ (∀ report, t.program = .done report → t.stage = .left) ∧
      t.guards = t.stage.guards g := by
  have hm := h.tasks t ht
  rw [Task.Metered, hg] at hm
  refine ⟨fun r hr => hm.program.allows hr, fun report hr => ?_, hm.guards⟩
  have hdone := hm.program
  rw [hr] at hdone
  exact hdone

/-- A task that is not a tick's has nothing to do with permits. -/
theorem unmetered {x : State} (h : x.Metered n) (ht : t ∈ x.tasks) (hg : t.origin.tick? = none) :
    t.program.Unmetered ∧ t.stage = .new := by
  have hm := h.tasks t ht
  rw [Task.Metered, hg] at hm
  exact ⟨hm.program, hm.stage⟩

/-- Each tick that runs has a permit of its own. -/
theorem bounded {x : State} (h : x.Metered n) : x.tasks.countP Task.runs ≤ n := by
  have hgranted : x.tasks.countP Task.runs ≤ (x.tasks.filterMap Task.ticket?).countP x.world.permits.granted := by
    rw [List.countP_filterMap]
    refine List.countP_mono_left fun t ht hr => ?_
    obtain ⟨ticket, hg⟩ := Option.isSome_iff_exists.1 hr
    have hout : t.ticket? = some ticket := Stage.ticket?_eq_of_granted? hg
    simp [hout, Permits.granted, h.granted t ht ticket hg]
  have haccounted := h.balanced.free_add_countP
  omega

/-- All permits are free when nobody has a ticket. -/
theorem restored {x : State} (h : x.Metered n) (hnone : ∀ t ∈ x.tasks, t.ticket? = none) :
    x.world.permits.free = n ∧ x.world.permits.queue = [] := by
  have hnil : x.tasks.filterMap Task.ticket? = [] := List.filterMap_eq_nil_iff.2 hnone
  exact (hnil ▸ h.balanced).of_nil

end State.Metered

/-- In a run from a quiet state with the given number of free permits, all of them stay accounted for. -/
theorem State.Run.metered {s : Scheduler} {n : Nat} {start x : State} {es : List Event} (h : State.Run s start es x)
    (ht : start.tasks = []) (hp : start.world.permits = .ofNat n) : x.Metered n := by
  refine h.invariant ⟨?_, by simp [ht], by simp [ht]⟩ fun _ _ _ _ hx hs => hx.step hs
  rw [ht, hp]
  exact Permits.balanced_ofNat n

namespace Program.Trace

variable {s : Scheduler} {ms : List Move} {report : Report} {url : AccessUrl}

/-! ## Ticks of marked services -/

/-- Whoever synchronizes a URL that is marked is told that the tick is skipped. -/
theorem asked_of_marked {url' : AccessUrl} (h : Trace ((Operation.synchronize url').program s) ms (.done report))
    (hm : .answered (.tryMark url) none ∈ ms) : report = .asked .skipped := by
  obtain ⟨ms₁, ms₂, r, rfl, hs, hr⟩ := bind h
  obtain ⟨a, ms', rfl, hmark⟩ := of_ask hs
  cases a with
  | none =>
    obtain ⟨rfl, rfl⟩ := of_done hmark
    exact (of_done hr).2.symm
  | some g =>
    obtain ⟨ms₃, ms₄, r', rfl, hrun, hd⟩ := bind (p := s.synchronizer.runTick g) hmark
    obtain ⟨rfl, rfl⟩ := of_done hd
    have hms₂ : ms₂ = [] := by cases r' <;> exact (of_done hr).1
    -- the tick itself marks nothing
    have hmem : .answered (.tryMark url) none ∈ ms₃ := by simpa [hms₂] using hm
    exact absurd ((s.synchronizer.only_runTick g).trace hrun _ hmem _ rfl) (by simp [Request.ofTick])

/-- So is whoever registers a service whose URL is marked. -/
theorem scheduled_of_marked {service : Service} (h : Trace ((Operation.schedule service).program s) ms (.done report))
    (hm : .answered (.tryMark url) none ∈ ms) : report = .scheduled (some .skipped) := by
  rcases of_schedule h with ⟨_, rfl⟩ | ⟨rfl, _⟩ | ⟨_, _, _, _, _, rfl⟩
  · simp at hm
  · rfl
  · simp at hm

end Program.Trace

/-! ## Throttled states -/

/-- The URLs of the ticks in tasks of their own that have not given their guards back, whether they have begun or not. -/
def State.ticking (x : State) : List AccessUrl :=
  ((x.tasks.filter fun t => t.origin.tick?.isSome).flatMap Task.guards ++ x.world.jobGuards).map Guard.url

/-- A state in which ticks in tasks of their own share a number of permits, and are asked for in vain while there is one already. -/
structure State.Throttled (n : Nat) (x : State) : Prop where
  /-- The stage of a tick says what its task may ask for and holds, and where it is over. -/
  staged : ∀ t ∈ x.tasks, ∀ g, t.origin.tick? = some g → (∀ r, t.program.Asks r → t.stage.Allows g r) ∧
    (∀ report, t.program = .done report → t.stage = .left) ∧ t.guards = t.stage.guards g
  /-- No other task has anything to do with permits. -/
  unmetered : ∀ t ∈ x.tasks, t.origin.tick? = none → t.program.Unmetered ∧ t.stage = .new
  /-- No more ticks run than there are permits. -/
  bounded : x.tasks.countP Task.runs ≤ n
  /-- Each permit is free or granted to the ticket of a tick that is not over. -/
  accounted : x.world.permits.free + (x.tasks.filterMap Task.ticket?).countP x.world.permits.granted = n
  /-- Where no tick has a ticket, every permit is free and nobody waits. -/
  restored : (∀ t ∈ x.tasks, t.ticket? = none) → x.world.permits.free = n ∧ x.world.permits.queue = []
  /-- No permit is free while a ticket waits. -/
  greedy : x.world.permits.queue = [] ∨ x.world.permits.free = 0
  /-- No two ticks of one URL are queued or run. -/
  single : x.ticking.Nodup
  /-- While a tick of a URL is queued or runs, whoever tries to mark the URL is refused at once. -/
  refused : ∀ url ∈ x.ticking, x.world.perform (.tryMark url) = some (none, x.world)
  /-- Whoever was refused was told that the tick is skipped. -/
  asked : ∀ t ∈ x.ended, t.cut = none → ∀ url url', t.origin = .operation (.synchronize url) →
    .answered (.tryMark url') none ∈ t.moves → t.program = .done (.asked .skipped)
  scheduled : ∀ t ∈ x.ended, t.cut = none → ∀ service url, t.origin = .operation (.schedule service) →
    .answered (.tryMark url) none ∈ t.moves → t.program = .done (.scheduled (some .skipped))
  rounded : ∀ t ∈ x.ended, ∀ os, t.program = .done (.rounded os) → ∃ discovery services starts joins,
    t.moves = discovery ++ .answered .services services :: (starts ++ joins) ∧ Ticked services starts joins os

/-- The URLs of ticks are those of some of the live guards, each of them once. -/
theorem State.Exclusive.ticking {x : State} (h : x.Exclusive) : x.ticking.Nodup ∧ x.ticking ⊆ x.world.inFlight := by
  have hguards : List.Sublist ((x.tasks.filter fun t => t.origin.tick?.isSome).flatMap Task.guards ++ x.world.jobGuards)
      (x.tasks.flatMap Task.guards ++ x.world.jobGuards) :=
    (List.filter_sublist.flatMap Task.guards).append_right x.world.jobGuards
  have hticking := hguards.map Guard.url
  have howners := h.owners.map Guard.url
  rw [← h.marks] at howners
  exact ⟨hticking.nodup (howners.nodup_iff.2 h.nodup), fun url hu => howners.subset (hticking.subset hu)⟩

/-- In every state of every run from a quiet state no more ticks run than there are permits, no permit is lost, and each URL has one
tick at most that is queued or runs. Whoever asks for another one is refused at once and told that it is skipped. -/
theorem State.Run.throttles {s : Scheduler} {n : Nat} {start x : State} {es : List Event} (h : State.Run s start es x)
    (hq : start.Quiet) (hp : start.world.permits = .ofNat n) : x.Throttled n := by
  have hmetered : x.Metered n := h.metered hq.tasks hp
  have hrecorded : x.Recorded s := h.recorded hq.tasks hq.ended
  have hkept : start.Kept lawless := hq.kept fun _ => trivial
  have hexclusive : x.Exclusive := State.exclusive_of_kept (h.kept hkept fun e _ => lawless_allows e)
  obtain ⟨hsingle, hmarks⟩ := hexclusive.ticking
  -- what was asked of a task that was not cut short can be read off its moves
  have htrace : ∀ t ∈ x.ended, t.cut = none → ∃ report, t.program = .done report ∧
      (t.origin.program s).Trace t.moves (.done report) := by
    intro t ht hcut
    obtain ⟨hrec, report, hr⟩ := hrecorded.ended t ht
    rw [Task.Recorded, hcut] at hrec
    exact ⟨report, hr, hr ▸ hrec⟩
  refine
    { staged := fun t ht g hg => hmetered.staged ht hg
      unmetered := fun t ht hg => hmetered.unmetered ht hg
      bounded := hmetered.bounded
      accounted := hmetered.balanced.free_add_countP
      restored := hmetered.restored
      greedy := hmetered.balanced.greedy
      single := hsingle
      refused := ?_
      asked := ?_
      scheduled := ?_
      rounded := fun t ht os hr => (hrecorded.trace ht hr fun _ => nofun).of_rounded }
  · intro url hu
    have hmarked : url ∈ x.world.inFlight := hmarks hu
    simp [World.perform, World.tryMark, hmarked]
  · intro t ht hcut url url' ho hm
    obtain ⟨report, hr, ht⟩ := htrace t ht hcut
    rw [ho] at ht
    rw [hr, ht.asked_of_marked (s := s) hm]
  · intro t ht hcut service url ho hm
    obtain ⟨report, hr, ht⟩ := htrace t ht hcut
    rw [ho] at ht
    rw [hr, ht.scheduled_of_marked (s := s) hm]

/-- There is one permit. While a tick has it, a tick of another URL is queued, and a round skips both. The first tick panics, and the
other one gets its permit. -/
theorem State.Run.throttles_after_panic :
    let s : Scheduler := ⟨⟨false, 1000⟩, false, [], 1000⟩
    let start : State := ⟨World.initial (.ofNat 1), [], []⟩
    let a : AccessUrl := ⟨"http://a"⟩
    let b : AccessUrl := ⟨"http://b"⟩
    ∃ es x, State.Run s start es x ∧ start.Quiet ∧ x.tasks.map Task.stage = [.new, .new, .running 1] ∧
      x.ended.map (fun t => (t.origin.tick?.map Guard.url, t.cut)) = [(none, none), (some a, some "panic")] ∧
      x.world.permits = ⟨0, [], 2⟩ ∧ x.ticking = [b] ∧ x.Throttled 1 := by
  intro s start a b
  let choices : List Choice := [.call (.schedule (.fresh a)), .move 0 .go, .move 0 .go, .move 0 .go, .begin 0, .move 1 .go,
    .move 1 .go, .move 1 .go, .move 1 .go, .call (.schedule (.fresh b)), .move 2 .go, .move 2 .go, .move 2 .go, .begin 0,
    .move 3 .go, .call .round, .move 4 .go, .move 4 .go, .move 4 .go, .finish 4, .cut 1 "panic", .move 1 .go, .move 1 .go,
    .move 1 .go, .finish 1, .move 2 .go]
  obtain ⟨es, x, hrun, hx⟩ := State.exists_run (s := s) (x := start)
    (b := ([.new, .new, .running 1], [(none, none), (some a, some "panic")], ⟨0, [], 2⟩, [b]))
    (fun _ x => (x.tasks.map Task.stage, x.ended.map fun t => (t.origin.tick?.map Guard.url, t.cut), x.world.permits, x.ticking))
    (by cbv : (State.replay s start choices).map _ = _)
  obtain ⟨hstages, hended, hpermits, hticking⟩ : _ ∧ _ ∧ _ ∧ _ := by simpa only [Prod.mk.injEq] using hx
  have hquiet : start.Quiet := State.quiet_initial _
  exact ⟨es, x, hrun, hquiet, hstages, hended, hpermits, hticking, hrun.throttles hquiet rfl⟩

end CatalogSync.Engine
