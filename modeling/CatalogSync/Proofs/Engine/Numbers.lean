import CatalogSync.Proofs.Engine.Joins

/-!
# Numbers of tasks

No two tasks have one number, and the number that whoever starts a task is told is that of the task (`State.Run.numbered`). So what is
told of a number is what the task came to that was started under it.
-/

namespace CatalogSync.Engine

/-- What jobs, tasks, and those that have ended are for, by their numbers. -/
def State.origins (x : State) : List (Nat × Origin) :=
  x.world.spawned.map (fun job => (job.1, .job job.2)) ++ (x.tasks ++ x.ended).map fun t => (t.id, t.origin)

theorem State.mem_origins {x : State} {t : Task} (ht : t ∈ x.tasks ++ x.ended) : (t.id, t.origin) ∈ x.origins :=
  List.mem_append_right _ (List.mem_map_of_mem ht)

/-- A state in which tasks are told apart by their numbers. -/
structure State.Numbered (x : State) : Prop where
  nodup : (x.origins.map Prod.fst).Nodup
  old : ∀ o ∈ x.origins, o.1 < x.world.taskCount
  /-- Under the number that whoever starts a task is told, there is a task that does the job. -/
  spawned : ∀ t ∈ x.tasks ++ x.ended, ∀ job n, .answered (.spawn job) n ∈ t.moves → (n, .job job) ∈ x.origins

/-- Jobs have numbers of their own, and so have tasks. -/
theorem State.Numbered.nodup_numbers {x : State} (h : x.Numbered) :
    (x.world.spawned.map Prod.fst).Nodup ∧ (x.tasks.map Task.id).Nodup := by
  have hnodup := h.nodup
  simp only [State.origins, List.map_append, List.map_map] at hnodup
  exact ⟨hnodup.of_append_left, hnodup.of_append_right.of_append_left⟩

/-- A task is told by its number. -/
theorem State.Numbered.eq_of_id {x : State} (h : x.Numbered) {t u : Task} (ht : t ∈ x.tasks ++ x.ended) (hu : u ∈ x.tasks ++ x.ended)
    (hid : t.id = u.id) : t = u := by
  have hnodup := h.nodup
  rw [State.origins, List.map_append, List.map_map, List.map_map] at hnodup
  exact List.inj_on_of_nodup_map hnodup.of_append_right ht hu hid

/-- A step at most adds a task, or a job, under the next number. -/
theorem State.Step.origins {s : Scheduler} {x y : State} {e : Event} (hs : State.Step s x e y) :
    (y.origins.Perm x.origins ∧ y.world.taskCount = x.world.taskCount) ∨
    ∃ origin, y.origins.Perm ((x.world.taskCount, origin) :: x.origins) ∧ y.world.taskCount = x.world.taskCount + 1 := by
  -- a task that goes on, or is cut short, keeps its number and its origin
  have hsame : ∀ {before after past : List Task} {t u : Task}, u.id = t.id → u.origin = t.origin →
      (before ++ u :: after ++ past).map (fun t => (t.id, t.origin)) =
        (before ++ t :: after ++ past).map fun t => (t.id, t.origin) := by
    intro before after past t u hid ho
    simp [hid, ho]
  cases hs with
  | call w ts past op =>
    refine Or.inr ⟨.operation op, ?_, rfl⟩
    simp only [State.origins, List.map_append, List.map_cons, List.append_assoc, List.singleton_append, Task.start]
    rw [← List.append_assoc, ← List.append_assoc]
    exact List.perm_middle
  | @begin w ts past before after id job h =>
    refine Or.inl ⟨?_, rfl⟩
    simp only [State.origins, h, List.map_append, List.map_cons, List.map_nil, List.append_assoc, Task.start, List.cons_append]
    refine List.Perm.trans ?_ List.perm_middle.symm
    rw [← List.append_assoc, ← List.append_assoc]
    exact List.perm_middle.trans (by simp only [List.append_assoc]; exact .refl _)
  | @move w w' before after past t m p hp =>
    have hrest : (before ++ t.move m p :: after ++ past).map (fun t => (t.id, t.origin)) = _ := hsame (t := t) rfl rfl
    have hspawned := hp.booked.spawned
    have hcount := hp.booked.taskCount
    cases hm : m.spawn? with
    | some job =>
      rw [hm] at hspawned hcount
      refine Or.inr ⟨.job job, ?_, hcount⟩
      simp only [State.origins, hspawned, hrest]
      simp only [Option.toList_some, List.map_append, List.map_cons, List.map_nil, List.append_assoc, List.singleton_append]
      exact List.perm_middle
    | none =>
      rw [hm, Option.toList_none, List.map_nil, List.append_nil] at hspawned
      rw [hm] at hcount
      refine Or.inl ⟨?_, hcount⟩
      simp only [State.origins, hspawned, hrest]
      exact .refl _
  | @finish w before after past t report hr =>
    have hworld : ((report.tick?.map (w.finish t.id)).getD w).spawned = w.spawned ∧
        ((report.tick?.map (w.finish t.id)).getD w).taskCount = w.taskCount := by
      cases report.tick? <;> exact ⟨rfl, rfl⟩
    refine Or.inl ⟨?_, hworld.2⟩
    simp only [State.origins, hworld.1]
    exact List.Perm.append_left _ ((Task.perm_ended before after past t).map _)
  | @cut w before after past t hi reason =>
    have hrest : (before ++ { t with cut := some reason, program := unwind reason t.permits t.guards } :: after ++ past).map
        (fun t => (t.id, t.origin)) = _ := hsame (t := t) rfl rfl
    refine Or.inl ⟨?_, rfl⟩
    simp only [State.origins, hrest]
    exact .refl _
  | pass w ts past n => exact Or.inl ⟨.refl _, rfl⟩

/-- What jobs and tasks are for stays with their numbers. -/
theorem State.Step.origins_subset {s : Scheduler} {x y : State} {e : Event} (hs : State.Step s x e y) : x.origins ⊆ y.origins := by
  rcases hs.origins with ⟨hp, _⟩ | ⟨origin, hp, _⟩
  · exact hp.symm.subset
  · exact fun o ho => hp.symm.subset (List.mem_cons_of_mem _ ho)

theorem State.Numbered.step {s : Scheduler} {x y : State} {e : Event} (h : x.Numbered) (hs : State.Step s x e y) : y.Numbered := by
  have hspawned : ∀ t ∈ y.tasks ++ y.ended, ∀ job n, .answered (.spawn job) n ∈ t.moves → (n, .job job) ∈ y.origins := by
    refine hs.forall_all (fun t ht job n hm => hs.origins_subset (h.spawned t ht job n hm)) (fun _ _ _ _ _ hm => nomatch hm)
      (fun _ _ _ _ hm => nomatch hm) ?_ fun _ _ ht _ _ => ht
    intro t _ ht m p _ hp job n hm
    rcases List.mem_append.1 hm with hm | hm
    · exact ht job n hm
    · obtain rfl := List.mem_singleton.1 hm
      obtain rfl : n = x.world.taskCount := hp.booked.fair
      have hnew : (x.world.taskCount, job) ∈ y.world.spawned := by
        rw [hp.booked.spawned]
        exact List.mem_append_right _ (List.mem_singleton_self _)
      exact List.mem_append_left _ (List.mem_map.2 ⟨_, hnew, rfl⟩)
  rcases hs.origins with ⟨hp, hcount⟩ | ⟨origin, hp, hcount⟩
  · refine ⟨((hp.map Prod.fst).nodup_iff).2 h.nodup, fun o ho => ?_, hspawned⟩
    rw [hcount]
    exact h.old o (hp.subset ho)
  · refine ⟨((hp.map Prod.fst).nodup_iff).2 (List.nodup_cons.2 ⟨fun hm => ?_, h.nodup⟩), fun o ho => ?_, hspawned⟩
    · obtain ⟨o, ho, he⟩ := List.mem_map.1 hm
      exact Nat.ne_of_lt (h.old o ho) he
    · rw [hcount]
      rcases List.mem_cons.1 (hp.subset ho) with rfl | ho
      · exact Nat.lt_succ_self _
      · exact Nat.lt_succ_of_lt (h.old o ho)

/-- In a run from a state without tasks and jobs, tasks are told apart by their numbers. -/
theorem State.Run.numbered {s : Scheduler} {start x : State} {es : List Event} (h : State.Run s start es x) (ht : start.tasks = [])
    (he : start.ended = []) (hj : start.world.spawned = []) : x.Numbered := by
  have hstart : start.origins = [] := by simp [State.origins, ht, he, hj]
  exact h.invariant ⟨by simp [hstart], by simp [hstart], by simp [ht, he]⟩ fun _ _ _ _ hx hs => hx.step hs

/-- Tasks are still told apart by their numbers after a run. -/
theorem State.Numbered.run {s : Scheduler} {x y : State} {es : List Event} (h : x.Numbered) (hr : State.Run s x es y) : y.Numbered :=
  hr.invariant h fun _ _ _ _ hx hs => hx.step hs

/-- What jobs and tasks are for stays with their numbers in a run. -/
theorem State.Run.origins_subset {s : Scheduler} {x y : State} {es : List Event} (h : State.Run s x es y) : x.origins ⊆ y.origins :=
  h.invariant (P := fun y => x.origins ⊆ y.origins) (List.Subset.refl _) fun _ _ _ _ hx hs => List.Subset.trans hx hs.origins_subset

/-- What is under the number of a task is what the task is for. -/
theorem State.Numbered.origin_eq {x : State} (h : x.Numbered) {t : Task} (ht : t ∈ x.tasks ++ x.ended) {origin : Origin}
    (ho : (t.id, origin) ∈ x.origins) : t.origin = origin :=
  congrArg Prod.snd (List.inj_on_of_nodup_map h.nodup (State.mem_origins ht) ho rfl)

end CatalogSync.Engine
