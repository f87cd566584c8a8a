import CatalogSync.Proofs.Engine.Progress

/-!
# Everything comes to an end

Without new calls nothing goes on forever: with each move a task comes to a part of its program, but for the moves of waiting, and while
one waits others move. Whoever starts tasks starts ticks, which start none, and a task that is cut short only gives back what it has
(`State.Step.lighter`). Since somebody can always go on (`State.Run.progress`), all tasks end, whichever of them go on and wherever they
are cut short (`State.Run.comesToRest`).
-/

namespace CatalogSync.Engine

open Relation

namespace Program

variable {α : Type} {p p' : Program α} {w w' : World} {m : Move}

/-! ## Programs end -/

/-- What may be left of a program once it has what it asks or waits for. -/
inductive Child : Program α → Program α → Prop where
  | ask {r : Request} {k : r.Answer → Program α} (a : r.Answer) : Child (k a) (.ask r k)
  | within {d : Nat} {r : Request} {k : Option r.Answer → Program α} (a : Option r.Answer) : Child (k a) (.within d r k)
  | hold {url : AccessUrl} {vigil : Vigil} {k : Guard → Program α} (g : Guard) : Child (k g) (.hold url vigil k)

/-- A program as it was before it began to wait for a guard. -/
def fresh : Program α → Program α
  | .hold url _ k => .hold url .listen k
  | p => p

/-- That a program is what is left of another one, however far the latter has got with waiting for a guard. -/
def Below (q p : Program α) : Prop := ∃ c, Child c p ∧ q = c.fresh

/-- A program that ends from where it is ends from its fresh form as well. -/
theorem acc_fresh (h : Acc Below p) : Acc Below p.fresh := by
  cases p with
  | hold url vigil k =>
    refine .intro _ ?_
    rintro _ ⟨_, hc, rfl⟩
    cases hc with
    | hold g => exact h.inv ⟨k g, .hold g, rfl⟩
  | done | ask | within => exact h

/-- No program goes on forever, however often it is answered. -/
theorem wellFounded_below : WellFounded (Below (α := α)) := by
  refine ⟨fun p => ?_⟩
  induction p with
  | done a =>
    refine .intro _ ?_
    rintro _ ⟨_, hc, _⟩
    nomatch hc
  | ask r k ih =>
    refine .intro _ ?_
    rintro _ ⟨_, hc, rfl⟩
    cases hc with
    | ask a => exact acc_fresh (ih a)
  | within d r k ih =>
    refine .intro _ ?_
    rintro _ ⟨_, hc, rfl⟩
    cases hc with
    | within a => exact acc_fresh (ih a)
  | hold url vigil k ih =>
    refine .intro _ ?_
    rintro _ ⟨_, hc, rfl⟩
    cases hc with
    | hold g => exact acc_fresh (ih g)

/-- How many moves of waiting there are to come at most before somebody else moves. -/
def patience (releases : Nat) : Program α → Nat
  | .hold _ .listen _ => 2
  | .hold _ (.attempt heard) _ => if heard < releases then 4 else 1
  | .hold _ (.wait heard) _ => if heard < releases then 3 else 0
  | _ => 0

/-- Four moves of waiting are the most before a guard must be given back. -/
theorem patience_le (releases : Nat) (p : Program α) : p.patience releases ≤ 4 := by
  unfold patience
  split
  · exact Nat.le_of_ble_eq_true rfl
  · split <;> omega
  · split <;> omega
  · exact Nat.zero_le _

/-- A move leads to a part of the program, or it is one of waiting, which changes nothing. -/
theorem Step.below (h : Step w p m w' p') : Below p'.fresh p.fresh ∨
    (p'.fresh = p.fresh ∧ w' = w ∧ p'.patience w.releases < p.patience w.releases) := by
  cases h with
  | ask ha => exact Or.inl ⟨_, .ask _, rfl⟩
  | within ha => exact Or.inl ⟨_, .within _, rfl⟩
  | expire he => exact Or.inl ⟨_, .within _, rfl⟩
  | take ht => exact Or.inl ⟨_, .hold _, rfl⟩
  | listen => exact Or.inr ⟨rfl, rfl, by simp [patience]⟩
  | yield ht =>
    obtain ⟨_, rfl⟩ := World.tryMark_eq_none ht
    refine Or.inr ⟨rfl, rfl, ?_⟩
    simp only [patience]
    split <;> omega
  | woken hr => exact Or.inr ⟨rfl, rfl, by simp [patience, hr]⟩

end Program

/-! ## Tasks that start no others -/

/-- What whoever was cut short asks for. -/
def Request.unwinds : Request → Bool
  | .unmark _ | .wake | .leave => true
  | _ => false

/-- What is left of a task that was cut short asks only for what gives back. -/
theorem only_unwind (reason : String) (permits : Nat) (gs : List Guard) :
    (unwind reason permits gs).Only fun r => r.unwinds = true := by
  induction gs with
  | nil =>
    induction permits with
    | zero => trivial
    | succ n ih => exact ⟨rfl, fun _ => ih⟩
  | cons g gs ih => exact ⟨rfl, fun _ => ⟨rfl, fun _ => ih⟩⟩

/-- Whether a request starts a task. -/
def Request.spawns : Request → Bool
  | .spawn _ => true
  | _ => false

/-- Giving back starts nothing. -/
theorem Request.spawns_of_unwinds {r : Request} (h : r.unwinds = true) : r.spawns = false := by
  cases r with
  | unmark | wake | leave => rfl
  | _ => nomatch h

/-- Nor can it be cut short. -/
theorem Request.interruptible_of_unwinds {r : Request} (h : r.unwinds = true) : r.interruptible = false := by
  cases r with
  | unmark | wake | leave => rfl
  | _ => nomatch h

/-- A tick's job starts no other task. -/
theorem Scheduler.only_work (s : Scheduler) (g : Guard) : (s.work (.tick g)).Only fun r => r.spawns = false := by
  have hrun : (s.synchronizer.runTick g).Only fun r => r.spawns = false := by
    refine (s.synchronizer.only_runTick g).mono ?_
    rintro r (hr | rfl | rfl)
    · cases r <;> first | rfl | nomatch hr
    · rfl
    · rfl
  exact ⟨rfl, fun _ => ⟨rfl, fun _ => hrun.bind fun _ => ⟨rfl, fun _ => trivial⟩⟩⟩

namespace Task

/-- A task that starts no other if it is a tick's, and only gives back what it has once it was cut short. -/
structure Barren (t : Task) : Prop where
  tick : t.origin.tick?.isSome → t.program.Only fun r => r.spawns = false
  cut : t.cut.isSome → t.program.Only fun r => r.unwinds = true

/-- What a task may lead to: one that may start ticks, one that starts no task, or one that was cut short. -/
def rank (t : Task) : Nat := if t.cut.isSome then 0 else if t.origin.tick?.isSome then 1 else 2

/-- What there is of a task, whatever it waits for. -/
def weight (t : Task) : Nat × Program Report := (t.rank, t.program.fresh)

variable {t : Task}

/-- A tick's task is barren from its start. -/
theorem barren_start (s : Scheduler) (id : Nat) (origin : Origin) : (Task.start s id origin).Barren := by
  refine ⟨fun ho => ?_, nofun⟩
  rcases origin with op | g | _
  · nomatch ho
  · exact s.only_work g
  · nomatch ho

/-- So is any task once it was cut short. -/
theorem barren_cut (t : Task) (reason : String) :
    Barren { t with cut := some reason, program := unwind reason t.permits t.guards } :=
  ⟨fun _ => (only_unwind _ _ _).mono fun _ => Request.spawns_of_unwinds, fun _ => only_unwind _ _ _⟩

/-- A barren task stays so, whatever it is answered. -/
theorem Barren.move {m : Move} {p : Program Report} (h : t.Barren) (hm : t.program.Goes m p) : (t.move m p).Barren :=
  ⟨fun ho => (h.tick ho).goes hm, fun hc => (h.cut hc).goes hm⟩

/-- Whoever was cut short is not cut short again. -/
theorem Barren.cut_eq_none (h : t.Barren) (hi : t.program.Interruptible) : t.cut = none := by
  by_contra hc
  have honly := h.cut (Option.isSome_iff_ne_none.2 hc)
  generalize t.program = p at hi honly
  cases hi with
  | wait => nomatch honly.1
  | request ha hr => nomatch hr.symm.trans (Request.interruptible_of_unwinds (honly.asks ha))

/-- Whoever starts a task starts a tick, and is neither a tick nor cut short. -/
theorem Barren.of_spawn (h : t.Barren) (hd : t.Dutiful) {m : Move} {p : Program Report} (hm : t.program.Goes m p)
    {job : Job} (hj : m.spawn? = some job) : t.rank = 2 ∧ ∃ g, job = .tick g := by
  obtain ⟨n, rfl⟩ : ∃ n, m = .answered (.spawn job) n := by
    unfold Move.spawn? at hj
    split at hj
    · cases hj
      exact ⟨_, rfl⟩
    · nomatch hj
  have hasks : t.program.Asks (.spawn job) := hm.asks rfl
  have hcut : t.cut.isSome = false := Bool.eq_false_iff.2 fun hc => nomatch (h.cut hc).asks hasks
  have htick : t.origin.tick?.isSome = false := Bool.eq_false_iff.2 fun ho => nomatch (h.tick ho).asks hasks
  refine ⟨by simp [rank, hcut, htick], ?_⟩
  have hallows := hd.program.allows_duty hasks
  cases job with
  | tick g => exact ⟨g, rfl⟩
  | round => exact hallows.elim

end Task

/-- All tasks of a run are barren. -/
theorem State.Run.barren {s : Scheduler} {start x : State} {es : List Event} (h : State.Run s start es x) (ht : start.tasks = []) :
    ∀ t ∈ x.tasks, t.Barren := by
  refine h.invariant (P := fun x => ∀ t ∈ x.tasks, t.Barren) (by simp [ht]) fun e _ x y hx hs => ?_
  exact hs.forall_tasks hx (Task.barren_start s) (fun t ht m p hp => ht.move hp.goes) fun t _ _ reason => t.barren_cut reason

/-! ## What there is to do -/

/-- Whether an event is one of the tasks that there are, and not a new call or the passing of time. -/
def Event.leadsOn : Event → Bool
  | .called _ _ | .passed _ => false
  | .began _ _ | .moved _ _ | .ended _ _ | .cut _ _ => true

namespace State

/-- What there is to do, of each task and of each job. -/
def load (s : Scheduler) (x : State) : List (Nat × Program Report) :=
  x.tasks.map Task.weight ++ x.world.spawned.map fun job => (Task.start s job.1 (.job job.2)).weight

/-- How many moves of waiting there are to come at most before there is less to do, counting those with which tasks begin. -/
def slack (x : State) : Nat :=
  (x.tasks.map fun t => t.program.patience x.world.releases).sum + 5 * x.world.spawned.length

/-- That there is less to do: less of some task, which may have started others of less weight, or as much but less of waiting. -/
def Lighter (s : Scheduler) : State → State → Prop :=
  InvImage (Prod.Lex (CutExpand (Prod.Lex (· < ·) Program.Below)) (· < ·))
    fun x => ((↑(x.load s) : Multiset (Nat × Program Report)), x.slack)

/-- There cannot be less and less to do forever. -/
theorem wellFounded_lighter (s : Scheduler) : WellFounded (Lighter s) :=
  InvImage.wf _ ((wellFounded_lt.prod_lex Program.wellFounded_below).cutExpand.prod_lex wellFounded_lt)

/-- There is as much to do, but less of waiting. -/
theorem lighter_of_slack {s : Scheduler} {x y : State} (hl : (y.load s).Perm (x.load s)) (hs : y.slack < x.slack) : y.Lighter s x :=
  Prod.lex_def.2 (Or.inr ⟨Multiset.coe_eq_coe.2 hl, hs⟩)

/-- One thing that there is to do is replaced by smaller ones. -/
theorem lighter_of_perm {s : Scheduler} {x y : State} {a : Nat × Program Report} {rest : List (Nat × Program Report)}
    (new : List (Nat × Program Report)) (hx : (x.load s).Perm (a :: rest)) (hy : (y.load s).Perm (new ++ rest))
    (h : ∀ b ∈ new, Prod.Lex (· < ·) Program.Below b a) : y.Lighter s x := by
  refine Prod.Lex.left _ _ ⟨↑new, a, h, ?_⟩
  rw [Multiset.coe_eq_coe.2 hx, Multiset.coe_eq_coe.2 hy, ← Multiset.coe_singleton, Multiset.coe_add, Multiset.coe_add]
  refine Multiset.coe_eq_coe.2 ?_
  have hnew : (new ++ rest).Perm (rest ++ new) := List.perm_append_comm
  exact List.perm_append_comm.trans (hnew.cons a)

/-- What there is to do does not depend on the order of the tasks. -/
theorem load_perm (s : Scheduler) (w : World) (before after past : List Task) (t : Task) :
    (load s ⟨w, before ++ t :: after, past⟩).Perm (t.weight :: load s ⟨w, before ++ after, past⟩) := by
  simp only [load, List.map_append, List.map_cons, List.append_assoc, List.cons_append]
  exact List.perm_middle

/-- After each step of the tasks that there are there is less to do. -/
theorem Step.lighter {s : Scheduler} {x y : State} {e : Event} (hs : State.Step s x e y) (he : e.leadsOn = true)
    (hd : ∀ t ∈ x.tasks, t.Dutiful) (hb : ∀ t ∈ x.tasks, t.Barren) : y.Lighter s x := by
  cases hs with
  | call | pass => nomatch he
  | @begin w ts past before after id job hj =>
    have hsame : (load s ⟨{ w with spawned := before ++ after }, ts ++ [.start s id (.job job)], past⟩).Perm (load s ⟨w, ts, past⟩) := by
      simp only [load, hj, List.map_append, List.map_cons, List.map_nil, List.append_assoc, List.cons_append, List.nil_append]
      exact List.Perm.append_left _ List.perm_middle.symm
    have hpatience := Program.patience_le w.releases (Task.start s id (.job job)).program
    refine lighter_of_slack hsame ?_
    simp only [slack, hj, List.map_append, List.map_cons, List.map_nil, List.sum_append, List.sum_cons, List.sum_nil,
      List.length_append, List.length_cons]
    omega
  | @move w w' before after past t m p hp =>
    have ht : t ∈ before ++ t :: after := List.mem_append_right _ List.mem_cons_self
    -- the move leads on in the program, or it is one of waiting, for which there is only so much patience
    rcases hp.below with hbelow | ⟨hfresh, rfl, hpatience⟩
    · have hweight : Prod.Lex (· < ·) Program.Below (t.move m p).weight t.weight := .right _ hbelow
      have hspawned := hp.booked.spawned
      refine lighter_of_perm ((t.move m p).weight :: m.spawn?.toList.map fun job => (Task.start s w.taskCount (.job job)).weight)
        (load_perm s w before after past t) ?_ ?_
      · refine (load_perm s w' before after past (t.move m p)).trans (List.Perm.cons _ ?_)
        simp only [load, hspawned, List.map_append, List.map_map]
        rw [← List.append_assoc]
        exact List.perm_append_comm
      · intro b hbm
        rcases List.mem_cons.1 hbm with rfl | hbm
        · exact hweight
        · obtain ⟨job, hjob, rfl⟩ := List.mem_map.1 hbm
          obtain ⟨hrank, g, rfl⟩ := (hb t ht).of_spawn (hd t ht) hp.goes (Option.mem_toList.1 hjob)
          -- a task that is started starts none itself, and so weighs less whatever its program is
          refine .left _ _ ?_
          rw [hrank]
          exact Nat.lt_succ_self 1
    · have hweight : (t.move m p).weight = t.weight := Prod.ext rfl hfresh
      have hsame : load s ⟨w', before ++ t.move m p :: after, past⟩ = load s ⟨w', before ++ t :: after, past⟩ := by
        simp only [load, List.map_append, List.map_cons, hweight]
      refine lighter_of_slack (hsame ▸ .refl _) ?_
      have hmoved : (t.move m p).program.patience w'.releases < t.program.patience w'.releases := hpatience
      simp only [slack, List.map_append, List.map_cons, List.sum_append, List.sum_cons]
      omega
  | @finish w before after past t report hr =>
    refine lighter_of_perm [] (load_perm s w before after past t) ?_ (by simp)
    cases report.tick? <;> exact .refl _
  | @cut w before after past t hi reason =>
    have ht : t ∈ before ++ t :: after := List.mem_append_right _ List.mem_cons_self
    refine lighter_of_perm [_] (load_perm s w before after past t) (load_perm s w before after past _) ?_
    rw [List.forall_mem_singleton]
    refine .left _ _ ?_
    show 0 < t.rank
    rw [Task.rank, (hb t ht).cut_eq_none hi, Option.isSome_none, if_neg Bool.false_ne_true]
    split <;> omega

/-! ## Runs come to rest -/

/-- A state at a later time. -/
def later (x : State) (time : Nat) : State := { x with world := { x.world with now := x.world.now + time } }

/-- That a condition comes to hold, however tasks go on and wherever they are cut short, if nobody calls for anything else: as long as it
does not hold somebody can go on, and it cannot be put off forever. -/
inductive Inevitable (s : Scheduler) (P : State → Prop) : State → Prop where
  | now {x : State} (h : P x) : Inevitable s P x
  | on {x : State} (can : ∃ e y, State.Step s x e y ∧ e.goes = true)
    (all : ∀ time e y, State.Step s (x.later time) e y → e.leadsOn = true → Inevitable s P y) : Inevitable s P x

/-- A condition that follows from an inevitable one, given what every step keeps. -/
theorem Inevitable.imp {s : Scheduler} {P Q I : State → Prop} {x : State} (h : Inevitable s P x) (hx : I x)
    (hI : ∀ e x y, State.Step s x e y → I x → I y) (hQ : ∀ x, I x → P x → Q x) : Inevitable s Q x := by
  induction h with
  | now h => exact .now (hQ _ hx h)
  | on can all ih =>
    exact .on can fun time e y hs he => ih time e y hs he (hI _ _ _ hs (hI _ _ _ (.pass _ _ _ time) hx))

/-- What is inevitable can come about. -/
theorem Inevitable.exists_run {s : Scheduler} {P : State → Prop} {x : State} (h : Inevitable s P x) :
    ∃ es y, State.Run s x es y ∧ P y := by
  induction h with
  | now h => exact ⟨[], _, .refl, h⟩
  | @on x can all ih =>
    obtain ⟨e, y, hs, he⟩ := can
    have hlead : e.leadsOn = true := by cases e <;> first | rfl | nomatch he
    obtain ⟨es, z, hrun, hz⟩ := ih 0 e y hs hlead
    exact ⟨e :: es, z, .cons hs hrun, hz⟩

/-- From every state of a run in which there are permits, all tasks end. -/
theorem Run.comesToRest {s : Scheduler} {n : Nat} {start x : State} {es : List Event} (h : State.Run s start es x) (hq : start.Quiet)
    (hp : start.world.permits = .ofNat n) (hn : 0 < n) : Inevitable s (fun y => y.tasks = [] ∧ y.world.spawned = []) x := by
  induction x using (wellFounded_lighter s).induction generalizing es with
  | h x ih =>
    rcases h.progress hq hp hn with hrest | hcan
    · exact .now hrest
    · refine .on hcan fun time e y hs he => ?_
      have hlater : State.Run s start (es ++ [.passed time]) (x.later time) := h.step (.pass _ _ _ time)
      have hdutiful : ∀ t ∈ x.tasks, t.Dutiful := fun t ht => h.dutiful hq.tasks hq.ended t (List.mem_append_left _ ht)
      have hlighter : y.Lighter s (x.later time) := hs.lighter he hdutiful (h.barren hq.tasks)
      exact ih y hlighter (hlater.step hs)

/-- A task is still there after a step, or it has ended. -/
theorem Step.exists_task {s : Scheduler} {x y : State} {e : Event} (hs : State.Step s x e y) {t : Task} (ht : t ∈ x.tasks ++ x.ended) :
    ∃ u ∈ y.tasks ++ y.ended, u.id = t.id ∧ u.origin = t.origin := by
  have hput : ∀ {before after past : List Task} {u u' : Task}, u'.id = u.id → u'.origin = u.origin →
      t ∈ before ++ u :: after ++ past → ∃ v ∈ before ++ u' :: after ++ past, v.id = t.id ∧ v.origin = t.origin := by
    intro before after past u u' hid ho ht
    simp only [List.append_assoc, List.cons_append, List.mem_append, List.mem_cons] at ht ⊢
    rcases ht with ht | rfl | ht
    · exact ⟨t, Or.inl ht, rfl, rfl⟩
    · exact ⟨u', Or.inr (Or.inl rfl), hid, ho⟩
    · exact ⟨t, Or.inr (Or.inr ht), rfl, rfl⟩
  have hadd : ∀ {ts past : List Task} {u : Task}, t ∈ ts ++ past → t ∈ ts ++ [u] ++ past := by
    intro ts past u ht
    rw [List.append_assoc]
    exact (List.mem_append.1 ht).elim (List.mem_append_left _) fun ht => List.mem_append_right _ (List.mem_cons_of_mem _ ht)
  cases hs with
  | call | begin => exact ⟨t, hadd ht, rfl, rfl⟩
  | @move w w' before after past u m p hp => exact hput (u := u) rfl rfl ht
  | @finish w before after past u report hr => exact ⟨t, (Task.perm_ended before after past u).symm.subset ht, rfl, rfl⟩
  | @cut w before after past u hi reason => exact hput (u := u) rfl rfl ht
  | pass => exact ⟨t, ht, rfl, rfl⟩

/-- Every task that there is in a state of a run ends. -/
theorem Run.ends {s : Scheduler} {n : Nat} {start x : State} {es : List Event} (h : State.Run s start es x) (hq : start.Quiet)
    (hp : start.world.permits = .ofNat n) (hn : 0 < n) {t : Task} (ht : t ∈ x.tasks) :
    Inevitable s (fun y => ∃ u ∈ y.ended, u.id = t.id ∧ u.origin = t.origin) x := by
  have hI : ∀ e y z, State.Step s y e z → (∃ u ∈ y.tasks ++ y.ended, u.id = t.id ∧ u.origin = t.origin) →
      ∃ u ∈ z.tasks ++ z.ended, u.id = t.id ∧ u.origin = t.origin := by
    rintro e y z hs ⟨u, hu, hid, ho⟩
    obtain ⟨v, hv, hid', ho'⟩ := hs.exists_task hu
    exact ⟨v, hv, hid'.trans hid, ho'.trans ho⟩
  refine (h.comesToRest hq hp hn).imp ⟨t, List.mem_append_left _ ht, rfl, rfl⟩ hI ?_
  rintro y ⟨u, hu, hid, ho⟩ ⟨hnone, _⟩
  rw [hnone, List.nil_append] at hu
  exact ⟨u, hu, hid, ho⟩

end State

end CatalogSync.Engine
