import CatalogSync.Proofs.Engine.Numbers
import CatalogSync.Proofs.Engine.Throttling
import CatalogSync.Proofs.Engine.Vigilance
import CatalogSync.Proofs.Engine.Work

/-!
# Somebody can always go on

As long as there are tasks, or jobs whose tasks have not begun, something can be done that nobody has to call for
(`State.Run.progress`). A tick waits for a permit at most, and while a ticket waits another one is granted. Who waits for a tick waits for
one that runs or that has told what it came to (`State.Run.awaited`). And who waits for a guard waits for somebody who has it in hand,
and waits for nobody (`State.Run.vigilant`).
-/

namespace CatalogSync.Engine

/-! ## Programs that cannot go on -/

/-- Whether an event is one that tasks and jobs bring about by themselves. -/
def Event.goes : Event → Bool
  | .began _ _ | .moved _ _ | .ended _ _ => true
  | .called _ _ | .cut _ _ | .passed _ => false

/-- What a program waits for that can make no move. -/
inductive Program.Blocked {α : Type} (w : World) (p : Program α) : Prop where
  | sleep {time : Nat} (ha : p.Asks (.sleep time))
  | join {n : Nat} (ha : p.Asks (.join n)) (hn : w.finished.lookup n = none)
  | permit {ticket : Nat} (ha : p.Asks (.permit ticket)) (ht : ticket ∈ w.permits.queue)
  | wait {url : AccessUrl} {heard : Nat} (hv : p.vigil? = some (url, .wait heard)) (hr : w.releases ≤ heard)

namespace Program

variable {α : Type} {w : World} {p : Program α}

/-- A request that gets no answer is one that has to wait. -/
theorem Blocked.of_not_answered {r : Request} (ha : p.Asks r) (h : ∀ a w', ¬Answers w r a w') : p.Blocked w := by
  have hprompt : r.prompt ≠ true := fun hr => by
    obtain ⟨a, w', hanswer⟩ := r.exists_answer w hr
    exact h a w' hanswer
  have hperform : w.perform r = none := Option.eq_none_iff_forall_ne_some.2 fun x hx => h x.1 x.2 (.world hx)
  cases r with
  | sleep time => exact .sleep ha
  | join n =>
    refine .join ha ?_
    simp only [World.perform] at hperform
    split at hperform
    · cases hperform
    · assumption
  | permit ticket =>
    refine .permit ha ?_
    by_contra hq
    simp [World.perform, Permits.granted, hq] at hperform
  | _ => exact absurd rfl hprompt

/-- A program that is not done and cannot go on waits for somebody. -/
theorem Blocked.of_stuck (hd : ∀ a, p ≠ .done a) (h : ∀ m w' p', ¬Step w p m w' p') : p.Blocked w := by
  cases p with
  | done a => exact absurd rfl (hd a)
  | ask r k => exact .of_not_answered .ask fun a w' ha => h _ _ _ (.ask ha)
  | within d r k => exact .of_not_answered .within fun a w' ha => h _ _ _ (.within ha)
  | hold url vigil k =>
    cases vigil with
    | listen => exact absurd .listen (h _ _ _)
    | attempt heard =>
      rcases ht : w.tryMark url with ⟨_ | g, w'⟩
      · exact absurd (.yield ht) (h _ _ _)
      · exact absurd (.take ht) (h _ _ _)
    | wait heard => exact .wait rfl (Nat.le_of_not_lt fun hr => h _ _ _ (.woken hr))

end Program

/-! ## Who is awaited -/

/-- What a move does to the ticks that are waited for. -/
theorem Duty.ticks_after (d : Duty) (m : Move) :
    (∃ n a, m = .answered (.join n) a ∧ (d.after m).ticks = d.ticks.tail) ∨
    (∃ g n, m = .answered (.spawn (.tick g)) n ∧ (d.after m).ticks = d.ticks ++ [n]) ∨
    ((d.after m).ticks = d.ticks ∧ ∀ notes, m.untold notes = notes) := by
  cases m with
  | answered r a =>
    cases r with
    | join n => exact Or.inl ⟨n, a, rfl, rfl⟩
    | spawn job =>
      cases job with
      | tick g => exact Or.inr (Or.inl ⟨g, a, rfl, rfl⟩)
      | round => exact Or.inr (Or.inr ⟨rfl, fun _ => rfl⟩)
    | tryMark url => cases a <;> exact Or.inr (Or.inr ⟨rfl, fun _ => rfl⟩)
    | _ => exact Or.inr (Or.inr ⟨rfl, fun _ => rfl⟩)
  | expired | listened | took | yielded | woken => exact Or.inr (Or.inr ⟨rfl, fun _ => rfl⟩)

/-- What the task of a tick reports is told to whoever asks. -/
theorem Task.Recorded.exists_tick {s : Scheduler} {t : Task} {g : Guard} {report : Report} (h : t.Recorded s)
    (ho : t.origin = .job (.tick g)) (hr : t.program = .done report) : ∃ a, report.tick? = some a := by
  unfold Task.Recorded at h
  rw [hr] at h
  split at h
  · rw [ho] at h
    obtain ⟨ticket, ms, _, h⟩ := Program.Trace.of_ask h
    obtain ⟨_, ms, _, h⟩ := Program.Trace.of_ask h
    obtain ⟨_, _, r, _, _, h⟩ := Program.Trace.bind (p := s.synchronizer.runTick g) h
    obtain ⟨_, ms, _, h⟩ := Program.Trace.of_ask h
    obtain ⟨_, rfl⟩ := h.of_done
    cases r <;> exact ⟨_, rfl⟩
  · rw [h [] report (.nil _)]
    exact ⟨_, rfl⟩

namespace State

/-- The numbers of the ticks that tasks have started and not waited for yet. -/
def awaited (x : State) : List Nat := x.tasks.flatMap fun t => t.duty.ticks

/-- Which tasks are awaited does not depend on the order of those who wait. -/
theorem awaited_perm (w : World) (before after past : List Task) (t : Task) :
    (awaited ⟨w, before ++ t :: after, past⟩).Perm (t.duty.ticks ++ awaited ⟨w, before ++ after, past⟩) :=
  List.perm_middle.flatMap_right _

/-- A state in which whoever waits for a tick waits for one that there is, or that has told what it came to. -/
structure Awaited (x : State) : Prop where
  /-- No two wait for one tick. -/
  nodup : x.awaited.Nodup
  ticks : ∀ n ∈ x.awaited, ∃ g, (n, .job (.tick g)) ∈ x.origins
  told : ∀ n ∈ x.awaited, ∀ u ∈ x.ended, u.id = n → ∃ a, (n, a) ∈ x.world.finished

variable {s : Scheduler} {x y : State} {e : Event}

/-- An awaited task has been started. -/
theorem Awaited.lt (h : x.Awaited) (hn : x.Numbered) {n : Nat} (hm : n ∈ x.awaited) : n < x.world.taskCount := by
  obtain ⟨g, ho⟩ := h.ticks n hm
  exact hn.old _ ho

/-- A step that adds nothing to what is waited for, and takes nothing away of what was told. -/
theorem Awaited.of_subset (h : x.Awaited) (hs : State.Step s x e y) (hnodup : y.awaited.Nodup) (hsub : y.awaited ⊆ x.awaited)
    (hended : y.ended = x.ended) (hf : ∀ n ∈ y.awaited, ∀ a, (n, a) ∈ x.world.finished → (n, a) ∈ y.world.finished) : y.Awaited := by
  refine ⟨hnodup, fun n hn => ?_, fun n hn u hu hid => ?_⟩
  · obtain ⟨g, ho⟩ := h.ticks n (hsub hn)
    exact ⟨g, hs.origins_subset ho⟩
  · obtain ⟨a, ha⟩ := h.told n (hsub hn) u (hended ▸ hu) hid
    exact ⟨a, hf n hn a ha⟩

/-- A move makes no two tasks wait for one tick: the tick that it starts has a number of its own, and the one that it has waited for is
the earliest of its task. -/
theorem Awaited.move {w w' : World} {before after past : List Task} {t : Task} {m : Move} {p : Program Report}
    (h : Awaited ⟨w, before ++ t :: after, past⟩) (hn : Numbered ⟨w, before ++ t :: after, past⟩) (hd : t.Dutiful)
    (hy : Numbered ⟨w', before ++ t.move m p :: after, past⟩) (hp : Program.Step w t.program m w' p) (s : Scheduler) :
    Awaited ⟨w', before ++ t.move m p :: after, past⟩ := by
  have hstep : State.Step s ⟨w, before ++ t :: after, past⟩ (.moved t.id m) ⟨w', before ++ t.move m p :: after, past⟩ := .move hp
  have hx := awaited_perm w before after past t
  have hafter := awaited_perm w' before after past (t.move m p)
  rw [Task.duty_move] at hafter
  rcases t.duty.ticks_after m with ⟨n, a, rfl, hticks⟩ | ⟨g, n, rfl, hticks⟩ | ⟨hticks, hnotes⟩
  · -- the earliest tick has been waited for, and nobody else waits for it
    obtain ⟨-, -, hhead⟩ := hd.program.allows_duty (hp.goes.asks (r := .join n) rfl)
    obtain ⟨rest, hrest⟩ := List.head?_eq_some_iff.1 hhead
    rw [hticks, hrest, List.tail_cons] at hafter
    rw [hrest, List.cons_append] at hx
    obtain ⟨hnew, hnodup⟩ := List.nodup_cons.1 (hx.nodup_iff.1 h.nodup)
    refine h.of_subset hstep (hafter.nodup_iff.2 hnodup) ?_ rfl fun k hk a' ha => ?_
    · exact fun k hk => hx.symm.subset (List.mem_cons_of_mem _ (hafter.subset hk))
    · show (k, a') ∈ w'.finished
      rw [hp.booked.untold]
      refine List.mem_filter.2 ⟨ha, ?_⟩
      simpa using fun hkn : k = n => hnew (hkn ▸ hafter.subset hk)
  · -- a tick that has just been started has a number of its own
    obtain rfl : n = w.taskCount := hp.booked.fair
    have hperm : (awaited ⟨w', before ++ t.move (.answered (.spawn (.tick g)) w.taskCount) p :: after, past⟩).Perm
        (w.taskCount :: awaited ⟨w, before ++ t :: after, past⟩) := by
      rw [hticks, List.append_assoc] at hafter
      exact hafter.trans (List.perm_middle.trans (hx.symm.cons _))
    refine ⟨hperm.nodup_iff.2 (List.nodup_cons.2 ⟨fun hm => Nat.lt_irrefl _ (h.lt hn hm), h.nodup⟩), ?_, ?_⟩
    · intro k hk
      rcases List.mem_cons.1 (hperm.subset hk) with rfl | hk
      · have hu : t.move (.answered (.spawn (.tick g)) w.taskCount) p ∈
            before ++ t.move (.answered (.spawn (.tick g)) w.taskCount) p :: after ++ past :=
          List.mem_append_left _ (List.mem_append_right _ List.mem_cons_self)
        exact ⟨g, hy.spawned _ hu (.tick g) w.taskCount (List.mem_append_right _ (List.mem_singleton_self _))⟩
      · obtain ⟨g', ho⟩ := h.ticks k hk
        exact ⟨g', hstep.origins_subset ho⟩
    · intro k hk u hu hid
      rcases List.mem_cons.1 (hperm.subset hk) with rfl | hk
      · exact absurd hid (Nat.ne_of_lt (hn.old _ (mem_origins (List.mem_append_right _ hu))))
      · obtain ⟨a, ha⟩ := h.told k hk u hu hid
        exact ⟨a, hp.booked.untold ▸ ha⟩
  · rw [hticks] at hafter
    have hsame := hafter.trans hx.symm
    refine h.of_subset hstep (hsame.nodup_iff.2 h.nodup) hsame.subset rfl fun k hk a ha => ?_
    show (k, a) ∈ w'.finished
    rw [hp.booked.untold, hnotes]
    exact ha

/-- A task that ends waits for nobody any more, and a tick that ends tells what it came to. -/
theorem Awaited.finish {w : World} {before after past : List Task} {t : Task} {report : Report}
    (h : Awaited ⟨w, before ++ t :: after, past⟩) (hn : Numbered ⟨w, before ++ t :: after, past⟩) (hr : t.Recorded s)
    (hreport : t.program = .done report) :
    Awaited ⟨(report.tick?.map (w.finish t.id)).getD w, before ++ after, past ++ [t]⟩ := by
  have hstep : State.Step s ⟨w, before ++ t :: after, past⟩ (.ended t.id report)
      ⟨(report.tick?.map (w.finish t.id)).getD w, before ++ after, past ++ [t]⟩ := .finish hreport
  have ht : t ∈ before ++ t :: after := List.mem_append_right _ List.mem_cons_self
  have hsub : awaited ⟨w, before ++ after, past⟩ ⊆ awaited ⟨w, before ++ t :: after, past⟩ :=
    fun k hk => (awaited_perm w before after past t).symm.subset (List.mem_append_right _ hk)
  have hkept : ∀ f ∈ w.finished, f ∈ ((report.tick?.map (w.finish t.id)).getD w).finished := by
    intro f hf
    cases report.tick? with
    | none => exact hf
    | some a => exact List.mem_append_left _ hf
  refine ⟨(List.nodup_append.1 ((awaited_perm w before after past t).nodup_iff.1 h.nodup)).2.1, fun k hk => ?_, fun k hk u hu hid => ?_⟩
  · obtain ⟨g, ho⟩ := h.ticks k (hsub hk)
    exact ⟨g, hstep.origins_subset ho⟩
  · rcases List.mem_append.1 hu with hu | hu
    · obtain ⟨a, ha⟩ := h.told k (hsub hk) u hu hid
      exact ⟨a, hkept _ ha⟩
    · obtain rfl := List.mem_singleton.1 hu
      obtain ⟨g, ho⟩ := h.ticks k (hsub hk)
      have horigin := hn.origin_eq (List.mem_append_left _ ht) (hid ▸ ho)
      obtain ⟨a, ha⟩ := hr.exists_tick horigin hreport
      refine ⟨a, ?_⟩
      show (k, a) ∈ ((report.tick?.map (w.finish u.id)).getD w).finished
      rw [ha, ← hid]
      exact List.mem_append_right _ (List.mem_singleton_self _)

/-- No step makes two tasks wait for one, or forgets one that was awaited. -/
theorem Awaited.step (h : x.Awaited) (hn : x.Numbered) (hd : ∀ t ∈ x.tasks, t.Dutiful) (hr : x.Recorded s) (hy : y.Numbered)
    (hs : State.Step s x e y) : y.Awaited := by
  have hstep := hs
  -- a task waits for nothing when it starts
  have hadd : ∀ (w : World) (ts past : List Task) (id : Nat) (origin : Origin),
      awaited ⟨w, ts ++ [.start s id origin], past⟩ = awaited ⟨w, ts, past⟩ := by
    intro w ts past id origin
    simp [awaited, Task.start, Task.duty, Origin.duty]
  cases hs with
  | call w ts past op =>
    have hsame := hadd { w with taskCount := w.taskCount + 1 } ts past w.taskCount (.operation op)
    exact h.of_subset hstep (hsame ▸ h.nodup) (hsame ▸ List.Subset.refl _) rfl fun _ _ _ ha => ha
  | @begin w ts past before after id job hj =>
    have hsame := hadd { w with spawned := before ++ after } ts past id (.job job)
    exact h.of_subset hstep (hsame ▸ h.nodup) (hsame ▸ List.Subset.refl _) rfl fun _ _ _ ha => ha
  | pass w ts past t => exact h.of_subset hstep h.nodup (List.Subset.refl _) rfl fun _ _ _ ha => ha
  | @cut w before after past t hi reason =>
    have hsame : awaited ⟨w, before ++ { t with cut := some reason, program := unwind reason t.permits t.guards } :: after, past⟩ =
        awaited ⟨w, before ++ t :: after, past⟩ := by
      simp only [awaited, List.flatMap_append, List.flatMap_cons]
      rfl
    exact h.of_subset hstep (hsame ▸ h.nodup) (hsame ▸ List.Subset.refl _) rfl fun _ _ _ ha => ha
  | @move w w' before after past t m p hp => exact h.move hn (hd t (List.mem_append_right _ List.mem_cons_self)) hy hp s
  | @finish w before after past t report hreport =>
    exact h.finish hn (hr.tasks t (List.mem_append_right _ List.mem_cons_self)) hreport

/-- In every state of a run from a quiet state, whoever waits for a tick waits for one that there is, or that has told what it came
to. -/
theorem Run.awaited {start : State} {es : List Event} (h : State.Run s start es x) (hq : start.Quiet) : x.Awaited := by
  induction h with
  | refl => exact ⟨by simp [State.awaited, hq.tasks], by simp [State.awaited, hq.tasks], by simp [State.awaited, hq.tasks]⟩
  | step h' hs ih =>
    have hn := h'.numbered hq.tasks hq.ended hq.spawned
    refine ih.step hn ?_ (h'.recorded hq.tasks hq.ended) (hn.step hs) hs
    exact fun t ht => h'.dutiful hq.tasks hq.ended t (List.mem_append_left _ ht)

end State

/-! ## Runs -/

/-- Who waits for a guard has none in hand, and has woken those who wait for the last one. -/
theorem Task.Dutiful.of_vigil {t : Task} (h : t.Dutiful) {url : AccessUrl} {vigil : Vigil}
    (hv : t.program.vigil? = some (url, vigil)) : t.guards = [] ∧ t.duty.waking = false := by
  have hprogram := h.program
  rw [h.guards]
  generalize t.program = p at hv hprogram
  cases p with
  | hold url' vigil' k =>
    rw [hprogram.1]
    exact ⟨rfl, hprogram.2.1⟩
  | done | ask | within => nomatch hv

namespace State

variable {s : Scheduler} {x : State} {n : Nat}

/-- Where all tasks are blocked no task is a tick's: all ticks would wait for permits while all permits were free. -/
theorem Metered.tick?_eq_none (h : x.Metered n) (hn : 0 < n) (hb : ∀ t ∈ x.tasks, t.program.Blocked x.world) :
    ∀ t ∈ x.tasks, t.origin.tick? = none := by
  -- the task of a tick asks for nothing else that it could be blocked at
  have hqueued : ∀ t ∈ x.tasks, ∀ g, t.origin.tick? = some g → ∃ ticket, t.ticket? = some ticket ∧ ticket ∈ x.world.permits.queue := by
    intro t ht g hg
    have hstaged := h.tasks t ht
    rw [Task.Metered, hg] at hstaged
    have hprogram := hstaged.program
    rcases hb t ht with ha | ⟨ha, _⟩ | ⟨ha, hq⟩ | ⟨hv, _⟩
    · have hallows := hprogram.allows ha
      cases hstage : t.stage <;> rw [hstage] at hallows <;> cases hallows
    · have hallows := hprogram.allows ha
      cases hstage : t.stage <;> rw [hstage] at hallows <;> cases hallows
    · have hallows := hprogram.allows ha
      cases hstage : t.stage <;> rw [hstage] at hallows <;> cases hallows
      exact ⟨_, congrArg Stage.ticket? hstage, hq⟩
    · generalize t.program = p at hv hprogram
      cases p with
      | hold => exact hprogram.elim
      | done | ask | within => cases hv
  have hwaiting : ∀ ticket ∈ x.tasks.filterMap Task.ticket?, ticket ∈ x.world.permits.queue := by
    intro ticket hticket
    obtain ⟨t, ht, hout⟩ := List.mem_filterMap.1 hticket
    cases hg : t.origin.tick? with
    | none =>
      have hnone : t.ticket? = none := congrArg Stage.ticket? (h.unmetered ht hg).2
      cases hnone.symm.trans hout
    | some g =>
      obtain ⟨ticket', hout', hq⟩ := hqueued t ht g hg
      cases hout.symm.trans hout'
      exact hq
  have hungranted : (x.tasks.filterMap Task.ticket?).countP x.world.permits.granted = 0 :=
    List.countP_eq_zero.2 fun ticket ht => by simp [Permits.granted, hwaiting ticket ht]
  have hfree := h.balanced.free_add_countP
  intro t ht
  by_contra hg
  obtain ⟨g, hg⟩ := Option.ne_none_iff_exists'.1 hg
  obtain ⟨ticket, _, hq⟩ := hqueued t ht g hg
  rcases h.balanced.greedy with hempty | hnone
  · rw [hempty] at hq
    cases hq
  · omega

/-- Where there are no ticks, no task is blocked but by waiting for a guard: what ended ticks came to has been told. -/
theorem Awaited.waits (h : x.Awaited) (hd : ∀ t ∈ x.tasks, t.Dutiful) (hm : x.Metered n) (hj : x.world.spawned = [])
    (hnone : ∀ t ∈ x.tasks, t.origin.tick? = none) {t : Task} (ht : t ∈ x.tasks) (hb : t.program.Blocked x.world) :
    ∃ url heard, t.program.vigil? = some (url, .wait heard) ∧ x.world.releases ≤ heard := by
  rcases hb with ha | ⟨ha, hlookup⟩ | ⟨ha, _⟩ | ⟨hv, hr⟩
  · exact ((hd t ht).program.allows_duty ha).elim
  · rename_i k
    obtain ⟨-, -, hhead⟩ := (hd t ht).program.allows_duty ha
    have hk : k ∈ x.awaited := List.mem_flatMap.2 ⟨t, ht, List.mem_of_mem_head? hhead⟩
    obtain ⟨g, ho⟩ := h.ticks k hk
    rw [State.origins, hj, List.map_nil, List.nil_append] at ho
    obtain ⟨u, hu, he⟩ := List.mem_map.1 ho
    obtain ⟨rfl, horigin⟩ := Prod.mk.inj he
    rcases List.mem_append.1 hu with hu | hu
    · cases (congrArg Origin.tick? horigin).symm.trans (hnone u hu)
    · obtain ⟨a, ha⟩ := h.told u.id hk u hu rfl
      have hne := List.lookup_eq_none_iff.1 hlookup _ ha
      simp at hne
  · cases (hm.unmetered ht (hnone t ht)).1.asks ha
  · exact ⟨_, _, hv, hr⟩

/-- In every state of a run in which there are permits, there are no tasks and no jobs, or something can be done without a call. -/
theorem Run.progress {start : State} {es : List Event} (h : State.Run s start es x) (hq : start.Quiet)
    (hp : start.world.permits = .ofNat n) (hn : 0 < n) :
    (x.tasks = [] ∧ x.world.spawned = []) ∨ ∃ e y, State.Step s x e y ∧ e.goes = true := by
  have hmetered : x.Metered n := h.metered hq.tasks hp
  have hkept : start.Kept lawless := hq.kept fun _ => trivial
  have hexclusive : x.Exclusive := State.exclusive_of_kept (h.kept hkept fun e _ => lawless_allows e)
  have hdutiful : ∀ t ∈ x.tasks, t.Dutiful := fun t ht => h.dutiful hq.tasks hq.ended t (List.mem_append_left _ ht)
  refine or_iff_not_imp_right.2 fun hstuck => ?_
  have hjobs : x.world.spawned = [] := by
    by_contra hj
    obtain ⟨⟨id, job⟩, rest, hj⟩ := List.exists_cons_of_ne_nil hj
    have hfirst : x.world.spawned = [] ++ (id, job) :: rest := hj
    exact hstuck ⟨_, _, .begin hfirst, rfl⟩
  have hblocked : ∀ t ∈ x.tasks, t.program.Blocked x.world := by
    intro t ht
    obtain ⟨w, ts, past⟩ := x
    obtain ⟨before, after, rfl⟩ := List.append_of_mem ht
    exact .of_stuck (fun a ha => hstuck ⟨_, _, .finish ha, rfl⟩) fun m w' p' hm => hstuck ⟨_, _, .move hm, rfl⟩
  have hnone := hmetered.tick?_eq_none hn hblocked
  have hwaits : ∀ t ∈ x.tasks, ∃ url heard, t.program.vigil? = some (url, .wait heard) ∧ x.world.releases ≤ heard :=
    fun t ht => (h.awaited hq).waits hdutiful hmetered hjobs hnone ht (hblocked t ht)
  refine ⟨List.eq_nil_iff_forall_not_mem.2 fun t ht => ?_, hjobs⟩
  -- everybody waits for a guard, so nobody has one in hand
  obtain ⟨url, heard, hv, hr⟩ := hwaits t ht
  rcases ((h.vigilant hq.tasks hq.ended).waits t ht url heard hv).2 with hlt | hu | ⟨u, hu, hw⟩
  · omega
  · rw [hexclusive.marks] at hu
    obtain ⟨g, hg, rfl⟩ := List.mem_map.1 hu
    rcases List.mem_append.1 (hexclusive.owners.symm.subset hg) with hg | hg
    · obtain ⟨u, hu, hg⟩ := List.mem_flatMap.1 hg
      obtain ⟨_, _, hv', _⟩ := hwaits u hu
      rw [((hdutiful u hu).of_vigil hv').1] at hg
      cases hg
    · rw [World.jobGuards, hjobs] at hg
      cases hg
  · obtain ⟨_, _, hv', _⟩ := hwaits u hu
    cases hw.symm.trans ((hdutiful u hu).of_vigil hv').2

end State

end CatalogSync.Engine
