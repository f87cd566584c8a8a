import CatalogSync.Proofs.Engine.Numbers
import CatalogSync.Proofs.Engine.Replay
import CatalogSync.Proofs.Engine.Work
import CatalogSync.Proofs.Table
import CatalogSync.Rehearsal.Session

/-!
# Rehearsals are runs

A machine lets its tasks run one at a time, each until it has to wait, and moves its clock in between. What it does is one of the
interleavings of the engine: a task that runs makes moves of its program (`Scene.works_play`), and a machine that goes on takes the
steps of a run (`Machine.Leads`). So what a machine comes to by operations, whatever the script says meanwhile, is what a run comes to
(`Machine.Reached.shows`), and what it answers is what a task of that run reports (`Machine.Shows.run_operation`).
-/

namespace CatalogSync

namespace Engine

/-! ## Worlds that are alike -/

variable {w w' v : World}

/-- Worlds that are alike but for the secrets, and for what the sink was told. -/
def World.Like (w v : World) : Prop := ∃ secrets reports, v = { w with secrets, reports }

namespace World.Like

theorem refl (w : World) : w.Like w := ⟨_, _, rfl⟩

theorem symm (h : w.Like v) : v.Like w := by
  obtain ⟨_, _, rfl⟩ := h
  exact ⟨_, _, rfl⟩

theorem trans (h : w.Like v) (h' : v.Like w') : w.Like w' := by
  obtain ⟨_, _, rfl⟩ := h
  obtain ⟨_, _, rfl⟩ := h'
  exact ⟨_, _, rfl⟩

/-- A guard is given out in both of two worlds that are alike, or in neither. -/
theorem tryMark (h : w.Like v) {url : AccessUrl} {g : Option Guard} (ht : w.tryMark url = (g, w')) :
    ∃ v', v.tryMark url = (g, v') ∧ w'.Like v' := by
  obtain ⟨_, _, rfl⟩ := h
  unfold World.tryMark at ht ⊢
  dsimp only
  split at ht
  · cases ht
    exact ⟨_, if_pos ‹_›, _, _, rfl⟩
  · cases ht
    exact ⟨_, if_neg ‹_›, _, _, rfl⟩

/-- The world itself answers a request the same in a world that is alike, unless it is one for a secret. -/
theorem perform (h : w.Like v) {r : Request} {a : r.Answer} (hr : ∀ name, r ≠ .resolve name) (hp : w.perform r = some (a, w')) :
    ∃ v', v.perform r = some (a, v') ∧ w'.Like v' := by
  cases r with
  | resolve name => exact absurd rfl (hr name)
  | tryMark url =>
    obtain ⟨v', ht, hlike⟩ := h.tryMark (Option.some.inj hp)
    exact ⟨v', congrArg some ht, hlike⟩
  | swap url expected new =>
    obtain ⟨_, _, rfl⟩ := h
    simp only [World.perform, World.swap] at hp ⊢
    generalize w.registry.swap w.now url expected new = r at hp
    cases r <;> (cases hp; exact ⟨_, rfl, _, _, rfl⟩)
  | sleep | permit =>
    obtain ⟨_, _, rfl⟩ := h
    simp only [World.perform] at hp ⊢
    split at hp
    · cases hp
      exact ⟨_, if_pos ‹_›, _, _, rfl⟩
    · cases hp
  | join task =>
    obtain ⟨_, _, rfl⟩ := h
    simp only [World.perform] at hp ⊢
    generalize w.finished.lookup task = r at hp
    cases r with
    | none => cases hp
    | some r =>
      cases hp
      exact ⟨_, rfl, _, _, rfl⟩
  | fetch | advertised | apply => cases hp
  | _ =>
    obtain ⟨_, _, rfl⟩ := h
    cases hp
    exact ⟨_, rfl, _, _, rfl⟩

end World.Like

/-- A request may be answered the same in a world that is alike. -/
theorem Answers.like {r : Request} {a : r.Answer} (h : Answers w r a w') (hv : w.Like v) : ∃ v', Answers v r a v' ∧ w'.Like v' := by
  cases h with
  | world h =>
    cases r with
    | resolve name =>
      cases h
      exact ⟨v, .resolved name _, hv⟩
    | _ =>
      obtain ⟨v', h, hv'⟩ := hv.perform (by rintro _ ⟨⟩) h
      exact ⟨v', .world h, hv'⟩
  | resolved name a => exact ⟨v, .resolved name a, hv⟩
  | fetched url headers a => exact ⟨v, .fetched url headers a, hv⟩
  | advertised registry headers a => exact ⟨v, .advertised registry headers a, hv⟩
  | applied url changes =>
    obtain ⟨_, _, rfl⟩ := hv
    exact ⟨_, .applied url changes, _, _, rfl⟩
  | refused url changes e => exact ⟨v, .refused url changes e, hv⟩

/-- A program may make the same move in a world that is alike. -/
theorem Program.Step.like {α : Type} {p p' : Program α} {m : Move} (h : Program.Step w p m w' p') (hv : w.Like v) :
    ∃ v', Program.Step v p m v' p' ∧ w'.Like v' := by
  have hsame : v.releases = w.releases ∧ v.now = w.now := by
    obtain ⟨_, _, rfl⟩ := hv
    exact ⟨rfl, rfl⟩
  cases h with
  | ask h =>
    obtain ⟨v', h, hv'⟩ := h.like hv
    exact ⟨v', .ask h, hv'⟩
  | within h =>
    obtain ⟨v', h, hv'⟩ := h.like hv
    exact ⟨v', .within h, hv'⟩
  | expire h => exact ⟨v, .expire (hsame.2 ▸ h), hv⟩
  | listen => exact ⟨v, hsame.1 ▸ .listen, hv⟩
  | take h =>
    obtain ⟨v', h, hv'⟩ := hv.tryMark h
    exact ⟨v', .take h, hv'⟩
  | yield h =>
    obtain ⟨v', h, hv'⟩ := hv.tryMark h
    exact ⟨v', .yield h, hv'⟩
  | woken h => exact ⟨v, .woken (hsame.1 ▸ h), hv⟩

/-! ## Work and jobs in a run -/

/-- The work of a task on its own is part of a run, also in a world that is alike. -/
theorem Program.Works.run {s : Scheduler} {p q : Program Report} {ds : List Deed} (h : p.Works Eq w ds w' q) (hv : w.Like v)
    {t : Task} (ht : t.program = p) (before after past : List Task) :
    ∃ es v' u, State.Run s ⟨v, before ++ t :: after, past⟩ es ⟨v', before ++ u :: after, past⟩ ∧ w'.Like v' ∧ u.id = t.id ∧
      u.program = q := by
  induction h generalizing v t with
  | nil => exact ⟨[], v, t, .refl, hv, rfl, ht⟩
  | cons hr hm _ ih =>
    obtain rfl := hr
    obtain ⟨v', hm, hv'⟩ := hm.like hv
    obtain ⟨es, v'', u, hrun, hv'', hid, hu⟩ := ih hv' (t := t.move _ _) rfl
    exact ⟨_, v'', u, .cons (.move (ht ▸ hm)) hrun, hv'', hid, hu⟩

/-- The jobs that were spawned begin one after the other. -/
theorem State.exists_run_begin (s : Scheduler) (w : World) (jobs : List (Nat × Job)) (tasks past : List Task) :
    ∃ es, State.Run s ⟨{ w with spawned := jobs }, tasks, past⟩ es
      ⟨{ w with spawned := [] }, tasks ++ jobs.map (fun j => .start s j.1 (.job j.2)), past⟩ := by
  induction jobs generalizing tasks with
  | nil => exact ⟨[], by rw [List.map_nil, List.append_nil]; exact .refl⟩
  | cons j jobs ih =>
    obtain ⟨es, hrun⟩ := ih (tasks ++ [.start s j.1 (.job j.2)])
    rw [List.append_assoc] at hrun
    have hbegin : State.Step s ⟨{ w with spawned := j :: jobs }, tasks, past⟩ (.began j.1 j.2) _ :=
      .begin (show j :: jobs = [] ++ (j.1, j.2) :: jobs from rfl)
    exact ⟨_, .cons hbegin hrun⟩

end Engine

namespace Rehearsal

open Engine

/-! ## Tasks that run until they have to wait -/

namespace Scene

/-- However far a fetch comes, the world stays. -/
theorem world_advance (x : Scene) (url : AccessUrl) (v : Visit) : (x.advance url v).2.2.world = x.world := by
  unfold advance
  split
  · split
    · dsimp only [respond]
      split <;> rfl
    · rfl
  · split <;> rfl

/-- A visit at a fake service leaves the world of the program alone. -/
theorem world_visit (x : Scene) (url : AccessUrl) (headers : Headers) : (x.visit url headers).2.world = x.world := by
  unfold visit
  dsimp only
  split <;> rfl

/-- So does a visit that is given up. -/
theorem world_giveUp (x : Scene) (v : Option Visit) : (x.giveUp v).world = x.world := by
  unfold giveUp
  split <;> rfl

/-- The catalog takes changes or refuses them. -/
theorem answers_apply (x : Scene) (url : AccessUrl) (changes : ResourceChanges) :
    Answers x.world (.apply url changes) (x.apply url changes).1 (x.apply url changes).2.world := by
  unfold apply
  dsimp only
  split
  · exact .refused url changes _
  · exact .applied url changes

/-- What a request is answered with is one of the answers that it may get; without an answer, the world stays. -/
theorem answers_answer (x : Scene) (v : Option Visit) (r : Request) :
    (∀ a, (x.answer v r).1 = some a → Answers x.world r a (x.answer v r).2.2.world) ∧
      ((x.answer v r).1 = none → (x.answer v r).2.2.world = x.world) := by
  cases r with
  | fetch url headers =>
    have hsame : (x.answer v (.fetch url headers)).2.2.world = x.world := by
      cases v with
      | some v => exact world_advance _ _ _
      | none => exact (world_advance _ _ _).trans (x.world_visit url headers)
    exact ⟨fun a _ => hsame ▸ .fetched url headers a, fun _ => hsame⟩
  | advertised registry headers => exact ⟨fun a _ => .advertised registry headers a, fun _ => rfl⟩
  | apply url changes =>
    refine ⟨?_, nofun⟩
    rintro _ ⟨⟩
    exact x.answers_apply url changes
  | _ =>
    simp only [answer]
    split
    · refine ⟨?_, nofun⟩
      rintro _ ⟨⟩
      exact .world ‹_›
    · exact ⟨nofun, fun _ => rfl⟩

/-- Whoever waits for a guard comes to try the mark, unless there was no release to hear of. -/
theorem works_hold {α : Type} (url : AccessUrl) {vigil : Vigil} (k : Guard → Program α) {w : World} {heard : Nat}
    (h : heardBefore vigil w.releases = some heard) :
    ∃ ds, Program.Works Eq (.hold url vigil k) w ds w (.hold url (.attempt heard) k) := by
  cases vigil with
  | listen =>
    obtain rfl := Option.some.inj h
    exact ⟨_, .cons rfl .listen (.nil _ _)⟩
  | attempt heard' =>
    obtain rfl := Option.some.inj h
    exact ⟨[], .nil _ _⟩
  | wait heard' =>
    simp only [heardBefore] at h
    split at h
    · obtain rfl := Option.some.inj h
      exact ⟨_, .cons rfl (.woken ‹_›) (.cons rfl .listen (.nil _ _))⟩
    · nomatch h

/-- A program that runs until it has to wait, or ends, makes moves of its own, one after the other. -/
theorem works_play {α : Type} (p : Program α) (v : Option Visit) (x : Scene) :
    ∃ ds, p.Works Eq x.world ds (x.play p v).2.2.world (x.play p v).1 := by
  induction p generalizing v x with
  | done a => exact ⟨[], .nil _ _⟩
  | ask r k ih =>
    obtain ⟨hanswer, hnone⟩ := x.answers_answer v r
    unfold play
    split
    · rename_i a _ y h
      rw [h] at hanswer
      obtain ⟨ds, hw⟩ := ih a none y
      exact ⟨_, .cons rfl (.ask (hanswer a rfl)) hw⟩
    · rename_i v' y h
      rw [h] at hnone
      exact ⟨[], (hnone rfl : y.world = _) ▸ .nil _ _⟩
  | within d r k ih =>
    obtain ⟨hanswer, hnone⟩ := x.answers_answer v r
    unfold play
    split
    · rename_i a _ y h
      rw [h] at hanswer
      obtain ⟨ds, hw⟩ := ih (some a) none y
      exact ⟨_, .cons rfl (.within (hanswer a rfl)) hw⟩
    · rename_i v' y h
      rw [h] at hnone
      have hy : y.world = x.world := hnone rfl
      split
      · -- the time is up: what the program asked for is given up on
        obtain ⟨ds, hw⟩ := ih none none (y.giveUp v')
        have hgiven : (y.giveUp v').world = x.world := (y.world_giveUp v').trans hy
        exact ⟨_, .cons rfl (.expire (hy ▸ ‹d ≤ y.world.now›)) (hgiven ▸ hw)⟩
      · exact ⟨[], hy ▸ .nil _ _⟩
  | hold url vigil k ih =>
    unfold play
    split
    · exact ⟨[], .nil _ _⟩
    · rename_i heard h
      obtain ⟨ds, hw⟩ := works_hold url k h
      split
      · -- what was heard leads to an attempt, which gets the guard or goes back to waiting
        rename_i g w ht
        obtain ⟨ds', hw'⟩ := ih g none { x with world := w }
        exact ⟨_, hw.append (.cons rfl (.take ht) hw')⟩
      · rename_i w ht
        exact ⟨_, hw.concat rfl (.yield ht)⟩

end Scene

/-! ## Machines and the states that they show -/

/-- That a state is what a machine shows: the tasks that have not ended are those of the machine, and its reports are of tasks that have
ended. -/
structure Machine.Shows (m : Machine) (x : State) : Prop where
  world : m.scene.world.Like x.world
  actors : (x.tasks.map fun t => (t.id, t.program)).Perm (m.actors.map fun a => (a.id, a.program))
  numbered : x.Numbered
  reports : ∀ r ∈ m.reports, ∃ t ∈ x.ended, t.id = r.1 ∧ t.program = .done r.2

/-- That what a machine comes to is what a run comes to. -/
def Machine.Leads (m m' : Machine) : Prop :=
  m'.scheduler = m.scheduler ∧ ∀ x, m.Shows x → ∃ es y, State.Run m.scheduler x es y ∧ m'.Shows y

namespace Machine

variable {m m' m'' : Machine} {x : State} {a : Actor}

/-- A machine leads to itself by an empty run. -/
theorem Leads.refl (m : Machine) : m.Leads m := ⟨rfl, fun x hx => ⟨[], x, .refl, hx⟩⟩

theorem Leads.trans (h : m.Leads m') (h' : m'.Leads m'') : m.Leads m'' := by
  refine ⟨h'.1.trans h.1, fun x hx => ?_⟩
  obtain ⟨es, y, hrun, hy⟩ := h.2 x hx
  obtain ⟨es', z, hrun', hz⟩ := h'.2 y hy
  exact ⟨es ++ es', z, hrun.append (h.1 ▸ hrun'), hz⟩

/-! ## What a machine does -/

/-- What concerns neither the tasks nor more of the world than secrets and reports does not show. -/
theorem Leads.of_like (hs : m'.scheduler = m.scheduler) (hw : m.scene.world.Like m'.scene.world)
    (ha : m'.actors.map (fun a => (a.id, a.program)) = m.actors.map fun a => (a.id, a.program)) (hr : m'.reports ⊆ m.reports) :
    m.Leads m' :=
  ⟨hs, fun x hx => ⟨[], x, .refl, hw.symm.trans hx.world, ha ▸ hx.actors, hx.numbered, fun r hm => hx.reports r (hr hm)⟩⟩

/-- Tasks of a machine have numbers of their own. -/
theorem Shows.nodup_ids (h : m.Shows x) : (m.actors.map Actor.id).Nodup := by
  have hperm := h.actors.map Prod.fst
  simp only [List.map_map, Function.comp_def] at hperm
  exact hperm.nodup_iff.1 h.numbered.nodup_numbers.2

/-- What is left of tasks without one of them. -/
theorem filter_others {before after : List Actor} (h : ((before ++ a :: after).map Actor.id).Nodup) :
    ((before ++ a :: after).filter fun b => b.id ≠ a.id) = before ++ after := by
  rw [List.map_append, List.map_cons, List.nodup_middle, List.nodup_cons, ← List.map_append] at h
  have hothers : ∀ b ∈ before ++ after, b.id ≠ a.id := fun b hb hid => h.1 (hid ▸ List.mem_map_of_mem hb)
  rw [List.filter_append, List.filter_cons_of_neg (by simp), ← List.filter_append]
  exact List.filter_eq_self.2 fun b hb => decide_eq_true (hothers b hb)

/-- A task of a machine, and the others. -/
theorem Shows.exists_task (h : m.Shows x) (ha : a ∈ m.actors) : ∃ before t after, x.tasks = before ++ t :: after ∧ t.id = a.id ∧
    t.program = a.program ∧ ((before ++ after).map fun t => (t.id, t.program)).Perm
      ((m.actors.filter fun b => b.id ≠ a.id).map fun b => (b.id, b.program)) := by
  have hmem : (a.id, a.program) ∈ x.tasks.map fun t => (t.id, t.program) :=
    h.actors.symm.subset (List.mem_map_of_mem (f := fun a => (a.id, a.program)) ha)
  obtain ⟨t, ht, he⟩ := List.mem_map.1 hmem
  obtain ⟨hid, hp⟩ := Prod.mk.inj he
  obtain ⟨before, after, htasks⟩ := List.append_of_mem ht
  obtain ⟨front, back, hactors⟩ := List.append_of_mem ha
  refine ⟨before, t, after, htasks, hid, hp, ?_⟩
  have hperm := h.actors
  rw [htasks, hactors, List.map_append, List.map_append, List.map_cons, List.map_cons, he] at hperm
  rw [hactors, filter_others (hactors ▸ h.nodup_ids), List.map_append, List.map_append]
  exact (List.perm_middle.symm.trans (hperm.trans List.perm_middle)).cons_inv

/-- A task that has ended is one of the past. -/
theorem shows_conclude {v : World} {before after past : List Task} {u : Task} {r : Report} (hw : m.scene.world.Like v)
    (hid : u.id = a.id) (hothers : ((before ++ after).map fun t => (t.id, t.program)).Perm (m.actors.map fun a => (a.id, a.program)))
    (hn : State.Numbered ⟨(r.tick?.map (v.finish u.id)).getD v, before ++ after, past ++ [u]⟩) (hu : u.program = .done r)
    (hr : ∀ r ∈ m.reports, ∃ t ∈ past, t.id = r.1 ∧ t.program = .done r.2) :
    (m.conclude a r).Shows ⟨(r.tick?.map (v.finish u.id)).getD v, before ++ after, past ++ [u]⟩ := by
  have hlike : ((r.tick?.map (m.scene.world.finish a.id)).getD m.scene.world).Like ((r.tick?.map (v.finish u.id)).getD v) := by
    rw [hid]
    cases r.tick? with
    | none => exact hw
    | some tick =>
      obtain ⟨_, _, rfl⟩ := hw
      exact ⟨_, _, rfl⟩
  have hearlier : ∀ r ∈ m.reports, ∃ t ∈ past ++ [u], t.id = r.1 ∧ t.program = .done r.2 := by
    intro r hm
    obtain ⟨t, ht, h⟩ := hr r hm
    exact ⟨t, List.mem_append_left _ ht, h⟩
  unfold conclude
  split
  · refine ⟨hlike, hothers, hn, List.forall_mem_append.2 ⟨hearlier, List.forall_mem_singleton.2 ?_⟩⟩
    exact ⟨u, List.mem_append_right _ (List.mem_singleton_self u), hid, hu⟩
  · exact ⟨hlike, hothers, hn, hearlier⟩

/-- A task that goes on makes moves, until it has to wait, or ends. -/
theorem leads_runActor (ha : a ∈ m.actors) : m.Leads (m.runActor a) := by
  refine ⟨?_, fun x hx => ?_⟩
  · unfold runActor conclude
    dsimp only
    split
    · split <;> rfl
    · rfl
  · obtain ⟨before, t, after, htasks, hid, hp, hothers⟩ := hx.exists_task ha
    obtain ⟨ds, hw⟩ := m.scene.works_play a.program a.visit
    obtain ⟨v, tasks, past⟩ := x
    obtain rfl : tasks = before ++ t :: after := htasks
    obtain ⟨es, v', u, hrun, hlike, huid, hu⟩ := hw.run (s := m.scheduler) hx.world hp before after past
    have hn : State.Numbered ⟨v', before ++ u :: after, past⟩ := hx.numbered.run hrun
    rw [hid] at huid
    unfold runActor
    generalize m.scene.play a.program a.visit = played at hlike hu
    obtain ⟨p, visit, scene⟩ := played
    -- the task that went on is put at the end of the line, so the others keep their order
    have hgoes : Machine.Shows { m with
        scene, actors := (m.actors.filter fun b => b.id ≠ a.id) ++ [{ a with program := p, visit }] }
        ⟨v', before ++ u :: after, past⟩ := by
      refine ⟨hlike, ?_, hn, hx.reports⟩
      have hsame : (u.id, u.program) = (a.id, p) := Prod.ext huid hu
      rw [List.map_append, List.map_cons, hsame, List.map_append, List.map_cons, List.map_nil]
      refine List.perm_middle.trans (.trans ?_ (List.perm_append_singleton _ _).symm)
      rw [← List.map_append]
      exact hothers.cons _
    cases p with
    | done r =>
      have hfinish : State.Step m.scheduler ⟨v', before ++ u :: after, past⟩ (.ended u.id r) _ := .finish hu
      exact ⟨_, _, hrun.step hfinish, shows_conclude hlike huid hothers (hn.step hfinish) hu hx.reports⟩
    | ask | within | hold => exact ⟨es, _, hrun, hgoes⟩

/-- Whom a release wakes up is a matter of the machine's own notes. -/
theorem leads_awaken (m : Machine) : m.Leads m.awaken := .of_like rfl (.refl _) rfl (List.Subset.refl _)

/-- The tasks of spawned jobs begin. -/
theorem leads_begin (m : Machine) : m.Leads m.begin := by
  refine ⟨rfl, fun x hx => ?_⟩
  obtain ⟨⟨secrets, reports, hw⟩, hactors, hn, hr⟩ := hx
  obtain ⟨v, tasks, past⟩ := x
  obtain rfl : v = _ := hw
  obtain ⟨es, hrun⟩ := State.exists_run_begin m.scheduler { m.scene.world with secrets, reports } m.scene.world.spawned tasks past
  refine ⟨es, _, hrun, ⟨secrets, reports, rfl⟩, ?_, hn.run hrun, hr⟩
  show (List.map _ (tasks ++ _)).Perm (List.map _ (m.actors ++ _))
  rw [List.map_append, List.map_append]
  refine hactors.append ?_
  rw [List.map_map, List.map_map]
  exact .refl _

/-! ## Operations on a machine -/

/-- An operation starts as a task with the next number. -/
theorem Shows.start_operation (h : m.Shows x) (op : Operation) :
    ∃ y, State.Step m.scheduler x (.called x.world.taskCount op) y ∧ (m.start (op.program m.scheduler)).2.Shows y ∧
      (m.start (op.program m.scheduler)).1 = x.world.taskCount ∧ (x.world.taskCount, .operation op) ∈ y.origins := by
  obtain ⟨⟨secrets, reports, hw⟩, hactors, hn, hr⟩ := h
  obtain ⟨v, tasks, past⟩ := x
  obtain rfl : v = _ := hw
  have hcall : State.Step m.scheduler ⟨{ m.scene.world with secrets, reports }, tasks, past⟩ _ _ := .call _ _ _ op
  refine ⟨_, hcall, ⟨⟨secrets, reports, rfl⟩, ?_, hn.step hcall, hr⟩, rfl, ?_⟩
  · show (List.map _ (tasks ++ _)).Perm (List.map _ (m.actors ++ _))
    rw [List.map_append, List.map_append]
    exact hactors.append (.refl _)
  · have hmem : Task.start m.scheduler m.scene.world.taskCount (.operation op) ∈ tasks ++ [.start m.scheduler _ (.operation op)] :=
      List.mem_append_right _ (List.mem_singleton_self _)
    exact State.mem_origins (x := ⟨_, _, past⟩) (List.mem_append_left _ hmem)

/-- Starting an operation is a step, by which its task gets the next number. -/
theorem leads_start (m : Machine) (op : Operation) : m.Leads (m.start (op.program m.scheduler)).2 := by
  refine ⟨rfl, fun x hx => ?_⟩
  obtain ⟨y, hstep, hy, _⟩ := hx.start_operation op
  exact ⟨_, y, State.Run.refl.step hstep, hy⟩

/-- A round that the loop begins is one that a caller asks for. -/
theorem leads_fireLoop (m : Machine) : m.Leads m.fireLoop := by
  unfold fireLoop
  split
  · rename_i l _
    split
    · refine ((leads_begin m).trans (leads_start m.begin .round)).trans (.of_like rfl (.refl _) ?_ (List.Subset.refl _))
      show List.map _ (m.actors ++ _) = List.map _ (m.actors ++ _ ++ _)
      rw [List.map_append, List.map_append, List.map_append, List.append_assoc]
      refine congrArg (_ ++ ·) ?_
      show List.map _ (List.map _ (m.scene.world.spawned ++ [(m.scene.world.taskCount, .round)])) = _
      rw [List.map_append, List.map_append]
      rfl
    · exact .refl m
  · exact .refl m

/-- Letting actors run until none can go on is a run. -/
theorem leads_settle (fuel : Nat) (m : Machine) : m.Leads (settle fuel m) := by
  induction fuel generalizing m with
  | zero => exact .refl m
  | succ fuel ih =>
    unfold settle
    split
    · exact .refl m
    · rename_i id rest _
      have hready : m.Leads { m with ready := rest } := .of_like rfl (.refl _) rfl (List.Subset.refl _)
      dsimp only
      split
      · rename_i a ha
        have hran := leads_runActor (m := { m with ready := rest }) (List.mem_of_find?_eq_some ha)
        exact hready.trans (hran.trans ((leads_awaken _).trans ((leads_begin _).trans (ih _))))
      · exact hready.trans (ih _)

/-- Whatever happens without the clock moving happens in a run. -/
theorem leads_rest (m : Machine) : m.Leads m.rest := (leads_awaken m).trans ((leads_fireLoop _).trans (leads_settle _ _))

/-- The clock moves on to what is waited for. -/
theorem leads_withWorld_now {t : Nat} (ht : m.now ≤ t) : m.Leads (m.withWorld { m.scene.world with now := t }) := by
  refine ⟨rfl, fun x hx => ?_⟩
  obtain ⟨⟨secrets, reports, hw⟩, hactors, hn, hr⟩ := hx
  obtain ⟨v, tasks, past⟩ := x
  obtain rfl : v = _ := hw
  have hpass : State.Step m.scheduler ⟨{ m.scene.world with secrets, reports }, tasks, past⟩ _ _ := .pass _ _ _ (t - m.now)
  have hnow : m.now + (t - m.now) = t := Nat.add_sub_cancel' ht
  refine ⟨_, _, State.Run.refl.step hpass, ⟨secrets, reports, ?_⟩, hactors, hn.step hpass, hr⟩
  show { m.scene.world with secrets, reports, now := m.now + (t - m.now) } = { m.scene.world with secrets, reports, now := t }
  rw [hnow]

/-- So is letting time pass until something is done. -/
theorem leads_waitFor (done : Machine → Bool) (fuel : Nat) (m : Machine) : m.Leads (waitFor done fuel m) := by
  induction fuel generalizing m with
  | zero => exact .refl m
  | succ fuel ih =>
    unfold waitFor
    split
    · exact .refl m
    · split
      · exact .refl m
      · rename_i t ht
        have hlater : m.now < t := of_decide_eq_true (List.mem_filter.1 (List.min?_mem ht)).2
        exact (leads_withWorld_now (Nat.le_of_lt hlater)).trans ((leads_rest _).trans (ih _))

/-- So is an operation from its start to its end. -/
theorem leads_run (m : Machine) (op : Operation) : m.Leads (m.run (op.program m.scheduler)).2 :=
  (leads_start m op).trans ((leads_rest _).trans ((leads_waitFor _ _ _).trans
    (.of_like rfl (.refl _) rfl (List.filter_sublist.subset))))

/-- A program of an operation that is run to its end, while others go on, is a task of a run: what it reports, that task has reported. -/
theorem Shows.run_operation (h : m.Shows x) (op : Operation) :
    ∃ es y, State.Run m.scheduler x (.called x.world.taskCount op :: es) y ∧ (m.run (op.program m.scheduler)).2.Shows y ∧
      ∀ r, (m.run (op.program m.scheduler)).1 = some r →
        ∃ t ∈ y.ended, t.id = x.world.taskCount ∧ t.origin = .operation op ∧ t.program = .done r := by
  obtain ⟨y, hcall, hy, hid, horigin⟩ := h.start_operation op
  have hwait := (leads_rest (m.start (op.program m.scheduler)).2).trans
    (leads_waitFor (fun m' => m'.ended (m.start (op.program m.scheduler)).1) patience _)
  obtain ⟨es, z, hrun, hz⟩ := hwait.2 y hy
  refine ⟨es, z, .cons hcall hrun, ⟨hz.world, hz.actors, hz.numbered, fun r hr => hz.reports r (List.mem_filter.1 hr).1⟩, ?_⟩
  intro r hr
  obtain ⟨t, ht, htid, htr⟩ := hz.reports _ (Table.mem_of_lookup (hr : List.lookup (m.start (op.program m.scheduler)).1 _ = some r))
  have hsame : t.id = x.world.taskCount := htid.trans hid
  have horigin' : (t.id, .operation op) ∈ z.origins := hsame ▸ hrun.origins_subset horigin
  exact ⟨t, ht, hsame, hz.numbered.origin_eq (List.mem_append_right _ ht) horigin', htr⟩

/-- What a machine comes to by operations that are run to their end, or started in the background: it may also rest, let time pass, be
given another script or other secrets, start or stop its loop, and forget reports and what the sink was told. -/
inductive Reached (s : Scheduler) (permits : Permits) : Machine → Prop
  | start : Reached s permits (Session.start s permits).machine
  | run {m : Machine} (h : Reached s permits m) (op : Operation) : Reached s permits (m.run (op.program s)).2
  | launch {m : Machine} (h : Reached s permits m) (op : Operation) : Reached s permits (m.start (op.program s)).2
  | rest {m : Machine} (h : Reached s permits m) : Reached s permits m.rest
  | wait {m : Machine} (h : Reached s permits m) (done : Machine → Bool) (fuel : Nat) : Reached s permits (waitFor done fuel m)
  | aside {m m' : Machine} (h : Reached s permits m) (hs : m'.scheduler = m.scheduler) (hw : m.scene.world.Like m'.scene.world)
    (ha : m'.actors = m.actors) (hr : m'.reports ⊆ m.reports) : Reached s permits m'

/-- What a machine comes to is what a run comes to from the initial world. -/
theorem Reached.shows {s : Scheduler} {permits : Permits} (h : Reached s permits m) :
    m.scheduler = s ∧ ∃ es x, State.Run s ⟨World.initial permits, [], []⟩ es x ∧ m.Shows x := by
  have hleads : ∀ {m m' : Machine}, m.Leads m' →
      (m.scheduler = s ∧ ∃ es x, State.Run s ⟨World.initial permits, [], []⟩ es x ∧ m.Shows x) →
      m'.scheduler = s ∧ ∃ es x, State.Run s ⟨World.initial permits, [], []⟩ es x ∧ m'.Shows x := by
    rintro m m' hl ⟨rfl, es, x, hrun, hx⟩
    obtain ⟨es', y, hrun', hy⟩ := hl.2 x hx
    exact ⟨hl.1, es ++ es', y, hrun.append hrun', hy⟩
  induction h with
  | start =>
    have hrun : State.Run s ⟨World.initial permits, [], []⟩ [] ⟨World.initial permits, [], []⟩ := .refl
    exact ⟨rfl, [], _, hrun, .refl _, .refl _, hrun.numbered rfl rfl rfl, by simp [Session.start]⟩
  | run _ op ih => exact hleads (ih.1 ▸ leads_run _ op) ih
  | launch _ op ih => exact hleads (ih.1 ▸ leads_start _ op) ih
  | rest _ ih => exact hleads (leads_rest _) ih
  | wait _ done fuel ih => exact hleads (leads_waitFor done fuel _) ih
  | aside _ hs hw ha hr ih => exact hleads (.of_like hs hw (by rw [ha]) hr) ih

end Machine

namespace Session

variable {s : Session} {scheduler : Scheduler} {permits : Permits} {c : Command} {op : Operation}

/-- A report that nobody waits for leaves the session as it is. -/
theorem conclude_nothing (s : Session) (r : Report) : (s.conclude .nothing r).2 = s := by
  unfold conclude
  split <;> rfl

/-- A session that runs an operation runs it on its machine. -/
theorem reached_run (h : Machine.Reached scheduler permits s.machine) (hc : s.program? c = some (op.program scheduler, .nothing, s)) :
    Machine.Reached scheduler permits (s.run c).2.machine := by
  have hmachine := h.run op
  unfold run
  split
  · nomatch hc
  · rw [hc]
    dsimp only
    split
    · rename_i r machine hm
      rw [hm] at hmachine
      rw [conclude_nothing]
      exact hmachine
    · rename_i machine hm
      rw [hm] at hmachine
      exact hmachine

/-- A session that starts an operation in the background starts it on its machine. -/
theorem reached_runInBackground (h : Machine.Reached scheduler permits s.machine) (name : String)
    (hc : s.program? c = some (op.program scheduler, .nothing, s)) :
    Machine.Reached scheduler permits (s.runInBackground name c).2.machine := by
  unfold runInBackground
  rw [hc]
  exact (h.launch op).rest

end Session

end Rehearsal

end CatalogSync
