import CatalogSync.Proofs.Engine.Ledger
import CatalogSync.Proofs.Engine.Trace

/-!
# What is told of ended tasks

What a tick in a task of its own came to is noted when its task ends, and told once to whoever asks for it. So whatever waits to be
told, and whatever was told, is what some ended task reported (`State.Run.joined`).
-/

namespace CatalogSync.Engine

/-- That a task which has ended reported what its tick came to. -/
def State.Reported (x : State) (task : Nat) (a : Except String TickResult) : Prop :=
  ∃ t ∈ x.ended, t.id = task ∧ ∃ report, t.program = .done report ∧ report.tick? = some a

/-- Tasks that have ended stay so. -/
theorem State.Step.ended {s : Scheduler} {x y : State} {e : Event} (hs : State.Step s x e y) : x.ended ⊆ y.ended := by
  cases hs with
  | finish => exact List.subset_append_left _ _
  | call | begin | move | cut | pass => exact List.Subset.refl _

/-- A task that has ended had ended before, or it was one of the tasks. -/
theorem State.Step.of_mem_ended {s : Scheduler} {x y : State} {e : Event} (hs : State.Step s x e y) {t : Task} (ht : t ∈ y.ended) :
    t ∈ x.ended ∨ t ∈ x.tasks := by
  cases hs with
  | finish =>
    rcases List.mem_append.1 ht with ht | ht
    · exact Or.inl ht
    · rw [List.mem_singleton.1 ht]
      exact Or.inr (List.mem_append_right _ List.mem_cons_self)
  | call | begin | move | cut | pass => exact Or.inl ht

/-- A task that ends is one of those that have ended. -/
theorem Task.perm_ended (before after past : List Task) (t : Task) :
    (before ++ after ++ (past ++ [t])).Perm (before ++ t :: after ++ past) := by
  rw [← List.append_assoc, List.append_assoc before (t :: after) past]
  exact List.perm_append_comm.trans (by simpa using List.perm_middle.symm)

/-- What holds of the tasks and of those that have ended still holds of them after a step, if it holds of a new one, and a move or a
cut keeps it. -/
theorem State.Step.forall_all {s : Scheduler} {x y : State} {e : Event} {P : Task → Prop} (hs : State.Step s x e y)
    (h : ∀ t ∈ x.tasks ++ x.ended, P t) (call : ∀ id op, e = .called id op → P (.start s id (.operation op)))
    (begin : ∀ id job, P (.start s id (.job job)))
    (move : ∀ t ∈ x.tasks, P t → ∀ m p, e = .moved t.id m → Program.Step x.world t.program m y.world p → P (t.move m p))
    (cut : ∀ t ∈ x.tasks, P t → ∀ reason, e = .cut t.id reason →
      P { t with cut := some reason, program := unwind reason t.permits t.guards }) :
    ∀ t ∈ y.tasks ++ y.ended, P t := by
  have hadd : ∀ {ts past : List Task} {u : Task}, (∀ v ∈ ts ++ past, P v) → P u → ∀ v ∈ ts ++ [u] ++ past, P v := by
    intro ts past u hold hu
    rw [List.forall_mem_append] at hold
    rw [List.append_assoc, List.forall_mem_append, List.singleton_append, List.forall_mem_cons]
    exact ⟨hold.1, hu, hold.2⟩
  have hput : ∀ {before after past : List Task} {t u : Task}, (∀ v ∈ before ++ t :: after ++ past, P v) → P u →
      ∀ v ∈ before ++ u :: after ++ past, P v := by
    intro before after past t u hold hu
    rw [List.append_assoc, List.cons_append, List.forall_mem_append, List.forall_mem_cons] at hold ⊢
    exact ⟨hold.1, hu, hold.2.2⟩
  have hmem : ∀ (before after : List Task) (t : Task), t ∈ before ++ t :: after :=
    fun before after t => List.mem_append_right _ List.mem_cons_self
  cases hs with
  | call w ts past op => exact hadd h (call _ _ rfl)
  | begin hj => exact hadd h (begin _ _)
  | @move w w' before after past t m p hp => exact hput h (move t (hmem _ _ t) (h t (List.mem_append_left _ (hmem _ _ t))) m p rfl hp)
  | @finish w before after past t report hr =>
    exact fun v hv => h v ((Task.perm_ended before after past t).subset hv)
  | @cut w before after past t hi reason => exact hput h (cut t (hmem _ _ t) (h t (List.mem_append_left _ (hmem _ _ t))) reason rfl)
  | pass w ts past n => exact h

theorem State.Reported.step {s : Scheduler} {x y : State} {e : Event} {task : Nat} {a : Except String TickResult}
    (h : x.Reported task a) (hs : State.Step s x e y) : y.Reported task a := by
  obtain ⟨t, ht, hr⟩ := h
  exact ⟨t, hs.ended ht, hr⟩

/-- A state in which only what was reported is told. -/
structure State.Joined (x : State) : Prop where
  /-- What waits to be told was reported. -/
  finished : ∀ f ∈ x.world.finished, x.Reported f.1 f.2
  /-- What tasks were told was reported. -/
  joined : ∀ t ∈ x.tasks, ∀ task a, .answered (.join task) a ∈ t.moves → x.Reported task a
  past : ∀ t ∈ x.ended, ∀ task a, .answered (.join task) a ∈ t.moves → x.Reported task a

/-- What a step adds to what waits to be told is what the task reported that ended with it. -/
theorem State.Step.finished {s : Scheduler} {x y : State} {e : Event} (hs : State.Step s x e y) :
    ∀ f ∈ y.world.finished, f ∈ x.world.finished ∨ y.Reported f.1 f.2 := by
  intro f hf
  cases hs with
  | @move w w' before after past t m p hp =>
    have hnotes : w'.finished = m.untold w.finished := hp.booked.untold
    exact Or.inl (m.untold_subset _ (hnotes ▸ hf))
  | @finish w before after past t report hr =>
    cases hreport : report.tick? with
    | none =>
      rw [hreport] at hf
      exact Or.inl hf
    | some a =>
      rw [hreport] at hf
      rcases List.mem_append.1 hf with hf | hf
      · exact Or.inl hf
      · obtain rfl := List.mem_singleton.1 hf
        exact Or.inr ⟨t, List.mem_append_right _ (List.mem_singleton_self t), rfl, report, hr, hreport⟩
  | call | begin | cut | pass => exact Or.inl hf

theorem State.Joined.step {s : Scheduler} {x y : State} {e : Event} (h : x.Joined) (hs : State.Step s x e y) : y.Joined := by
  have htasks : ∀ t ∈ y.tasks, ∀ task a, .answered (.join task) a ∈ t.moves → y.Reported task a := by
    refine hs.forall_tasks (fun t ht task a hm => (h.joined t ht task a hm).step hs) ?_ ?_ ?_
    · intro id origin task a hm
      nomatch hm
    · intro t ht m p hp task a hm
      rcases List.mem_append.1 hm with hm | hm
      · exact ht task a hm
      · rw [← List.mem_singleton.1 hm] at hp
        exact (h.finished _ hp.booked.fair).step hs
    · exact fun t ht _ _ => ht
  refine ⟨?_, htasks, ?_⟩
  · intro f hf
    rcases hs.finished f hf with hf | hr
    · exact (h.finished f hf).step hs
    · exact hr
  · intro t ht task a hm
    rcases hs.of_mem_ended ht with ht | ht
    · exact (h.past t ht task a hm).step hs
    · exact (h.joined t ht task a hm).step hs

/-- In a run from a state in which nothing waits to be told, only what was reported is told. -/
theorem State.Run.joined {s : Scheduler} {start x : State} {es : List Event} (h : State.Run s start es x) (ht : start.tasks = [])
    (he : start.ended = []) (hf : start.world.finished = []) : x.Joined :=
  h.invariant ⟨by simp [hf], by simp [ht], by simp [he]⟩ fun _ _ _ _ hx hs => hx.step hs

end CatalogSync.Engine
