import CatalogSync.Proofs.Engine.Termination

/-!
# Guards are given back

Every move that a task made was a step of the run, from a state in which the task had made the moves before it (`State.Run.made`). So
what a task has to do between two of its moves tells what it did in between (`State.Run.switched`). Whoever came to its end without being
cut short gave back every guard that it took, or handed it to a tick, waited for it, and the tick gave it back (`State.Run.restores`).
-/

namespace CatalogSync.Engine

/-- A move that a task made in a run, after other moves of its own: the states before and after it. -/
structure State.Made (s : Scheduler) (start : State) (es : List Event) (x : State) (t : Task) (ms : List Move) (m : Move)
    (y z : State) : Prop where
  run : ∃ es₁ es₂, es = es₁ ++ .moved t.id m :: es₂ ∧ State.Run s start es₁ y ∧ State.Run s z es₂ x
  step : State.Step s y (.moved t.id m) z
  task : ∃ u ∈ y.tasks, u.id = t.id ∧ u.origin = t.origin ∧ u.moves = ms ∧ ∃ p, Program.Step y.world u.program m z.world p

namespace State

variable {s : Scheduler} {start x y z : State} {es : List Event} {e : Event} {t : Task} {g : Guard}

theorem Made.concat {ms : List Move} {m : Move} {x' : State} (h : Made s start es x t ms m y z) (hs : State.Step s x e x') :
    Made s start (es ++ [e]) x' t ms m y z := by
  obtain ⟨es₁, es₂, rfl, hy, hx⟩ := h.run
  exact ⟨⟨es₁, es₂ ++ [e], by simp, hy, hx.step hs⟩, h.step, h.task⟩

/-- Who made a move is a matter of the task's number and origin. -/
theorem Made.congr {ms : List Move} {m : Move} {t' : Task} (h : Made s start es x t ms m y z) (hid : t'.id = t.id)
    (ho : t'.origin = t.origin) : Made s start es x t' ms m y z := by
  refine ⟨?_, ?_, ?_⟩
  · rw [hid]
    exact h.run
  · rw [hid]
    exact h.step
  · rw [hid, ho]
    exact h.task

/-- Whatever a task did it did in a step of the run. -/
theorem Run.made (h : State.Run s start es x) (ht : start.tasks = []) (he : start.ended = []) :
    ∀ t ∈ x.tasks ++ x.ended, ∀ ms m ms', t.moves = ms ++ m :: ms' → ∃ y z, Made s start es x t ms m y z := by
  induction h with
  | refl => simp [ht, he]
  | @step es x y e hx hs ih =>
    refine hs.forall_all (P := fun t => ∀ ms m ms', t.moves = ms ++ m :: ms' → ∃ y' z, Made s start (es ++ [e]) y t ms m y' z)
      ?_ ?_ ?_ ?_ ?_
    · intro t ht ms m ms' hm
      obtain ⟨y', z, hmade⟩ := ih t ht ms m ms' hm
      exact ⟨y', z, hmade.concat hs⟩
    · exact fun id op _ ms m ms' hm => absurd hm (by simp [Task.start])
    · exact fun id job ms m ms' hm => absurd hm (by simp [Task.start])
    · rintro t ht hold m p rfl hp ms m' ms' hm
      rcases concat_eq_split hm with ⟨rfl, rfl, rfl⟩ | ⟨ms'', rfl, hms⟩
      · exact ⟨x, y, ⟨es, [], rfl, hx, .refl⟩, hs, t, ht, rfl, rfl, rfl, p, hp⟩
      · obtain ⟨y', z, hmade⟩ := hold ms m' ms'' hms
        exact ⟨y', z, hmade.congr rfl rfl⟩
    · intro t _ hold reason _ ms m ms' hm
      obtain ⟨y', z, hmade⟩ := hold ms m ms' hm
      exact ⟨y', z, hmade.congr rfl rfl⟩

/-- Where something is no longer so after moves that was so before, there was a move that changed it. -/
theorem exists_switch {σ : Type} {f : σ → Move → σ} {P : σ → Prop} {d : σ} {ms : List Move} (h : P d) (hn : ¬P (ms.foldl f d)) :
    ∃ ms₁ m ms₂, ms = ms₁ ++ m :: ms₂ ∧ P (ms₁.foldl f d) ∧ ¬P (f (ms₁.foldl f d) m) := by
  induction ms generalizing d with
  | nil => exact absurd h hn
  | cons m ms ih =>
    by_cases hm : P (f d m)
    · obtain ⟨ms₁, m', ms₂, rfl, h₁, h₂⟩ := ih hm hn
      exact ⟨m :: ms₁, m', ms₂, rfl, h₁, h₂⟩
    · exact ⟨[], m, ms, rfl, h, hm⟩

/-- What a task had to do after some of its moves, and has no longer, it did in a move since, in a state in which it does all that it has
to. -/
theorem Run.switched (h : State.Run s start es x) (ht : start.tasks = []) (he : start.ended = []) (hm : t ∈ x.tasks ++ x.ended)
    {P : Duty → Prop} {ms ms' : List Move} (hms : t.moves = ms ++ ms') (hP : P (ms.foldl Duty.after t.origin.duty)) (hn : ¬P t.duty) :
    ∃ ms₁ m ms₂ y z u p, t.moves = ms₁ ++ m :: ms₂ ∧ Made s start es x t ms₁ m y z ∧ u ∈ y.tasks ∧ u.id = t.id ∧
      u.origin = t.origin ∧ u.Dutiful ∧ u.program.Goes m p ∧ P u.duty ∧ ¬P (u.duty.after m) := by
  rw [Task.duty, hms, List.foldl_append] at hn
  obtain ⟨ms₁, m, ms₂, rfl, h₁, h₂⟩ := exists_switch hP hn
  have hsplit : t.moves = (ms ++ ms₁) ++ m :: ms₂ := by rw [hms, List.append_assoc]
  obtain ⟨y, z, hmade⟩ := h.made ht he t hm _ _ _ hsplit
  obtain ⟨_, _, _, hy, _⟩ := hmade.run
  obtain ⟨u, hu, hid, ho, humoves, p, hp⟩ := hmade.task
  have hduty : u.duty = ms₁.foldl Duty.after (ms.foldl Duty.after t.origin.duty) := by
    rw [Task.duty, humoves, ho, List.foldl_append]
  exact ⟨ms ++ ms₁, m, ms₂, y, z, u, p, hsplit, hmade, hu, hid, ho, hy.dutiful ht he u (List.mem_append_left _ hu), hp.goes,
    hduty ▸ h₁, hduty ▸ h₂⟩

end State

/-- A guard leaves the hands of a task where it is given back, or handed to a tick. -/
theorem Duty.parts {d : Duty} {r : Request} {a : r.Answer} {g : Guard} (h : d.Allows r) (hg : d.guard = some g)
    (hn : (d.after (.answered r a)).guard ≠ some g) : r = .unmark g ∨ r = .spawn (.tick g) := by
  cases r with
  | tryMark url => nomatch hg.symm.trans h.1
  | unmark g' =>
    cases hg.symm.trans h.1
    exact Or.inl rfl
  | spawn job =>
    cases job with
    | tick g' =>
      cases hg.symm.trans h.1
      exact Or.inr rfl
    | round => exact h.elim
  | _ => exact absurd hg hn

namespace Task.Dutiful

variable {t : Task} {m : Move} {p : Program Report} {g : Guard} {n : Nat}

/-- A dutiful task parts with a guard by giving it back, or by starting a tick with it. -/
theorem parts (h : t.Dutiful) (hm : t.program.Goes m p) (hg : t.duty.guard = some g) (hn : (t.duty.after m).guard ≠ some g) :
    (∃ a, m = .answered (.unmark g) a) ∨ ∃ n, m = .answered (.spawn (.tick g)) n := by
  cases m with
  | answered r a =>
    rcases Duty.parts (h.program.allows_duty (hm.asks rfl)) hg hn with rfl | rfl
    · exact Or.inl ⟨a, rfl⟩
    · exact Or.inr ⟨a, rfl⟩
  | took g' =>
    have hprogram := h.program
    generalize t.program = q at hm hprogram
    cases hm with
    | take => nomatch hg.symm.trans hprogram.1
  | expired | listened | yielded | woken => exact absurd hg hn

/-- A tick is waited for no more once what it came to was told. -/
theorem joins (h : t.Dutiful) (hm : t.program.Goes m p) (hg : n ∈ t.duty.ticks) (hn : n ∉ (t.duty.after m).ticks) :
    ∃ a, m = .answered (.join n) a := by
  rcases t.duty.ticks_after m with ⟨k, a, rfl, hticks⟩ | ⟨g, k, rfl, hticks⟩ | ⟨hticks, _⟩
  · obtain ⟨-, -, hhead⟩ := h.program.allows_duty (hm.asks (r := .join k) rfl)
    obtain ⟨rest, hrest⟩ := List.head?_eq_some_iff.1 hhead
    rw [hticks, hrest, List.tail_cons] at hn
    rw [hrest] at hg
    obtain rfl : n = k := (List.mem_cons.1 hg).resolve_right hn
    exact ⟨a, rfl⟩
  · rw [hticks] at hn
    exact absurd (List.mem_append_left _ hg) hn
  · rw [hticks] at hn
    exact absurd hg hn

end Task.Dutiful

namespace Move

/-- A guard that is live after a move was live before, or was just taken. -/
theorem of_mem_live {m : Move} {g : Guard} {guards : List Guard} (h : g ∈ m.live guards) : g ∈ guards ∨ m.taken? = some g := by
  unfold live at h
  split at h
  · exact (List.mem_cons.1 h).symm.imp_right fun he => congrArg some he.symm
  · exact (List.mem_cons.1 h).symm.imp_right fun he => congrArg some he.symm
  · exact Or.inl (List.mem_filter.1 h).1
  · exact Or.inl h

end Move

/-- That a guard was given out, and is live no more. -/
structure State.Spent (g : Guard) (x : State) : Prop where
  gone : g ∉ x.world.guards
  old : g.id < x.world.guardCount

namespace State

variable {s : Scheduler} {start x y : State} {es : List Event} {e : Event} {t : Task} {g : Guard} {n : Nat}

/-- The live guards after a step are live guards before it, and new ones. -/
theorem Step.minted (hs : State.Step s x e y) :
    x.world.guardCount ≤ y.world.guardCount ∧
      ∀ g ∈ y.world.guards, g ∈ x.world.guards ∨ g.id = x.world.guardCount ∧ g.id < y.world.guardCount := by
  cases hs with
  | @move w w' before after past t m p hp =>
    have hcount : w'.guardCount = w.guardCount + m.taken?.toList.length := hp.signalled.guardCount
    refine ⟨hcount ▸ Nat.le_add_right _ _, fun g hg => ?_⟩
    rw [hp.signalled.guards] at hg
    refine (Move.of_mem_live hg).imp_right fun ht => ⟨(hp.signalled.fresh g ht).1, ?_⟩
    show g.id < w'.guardCount
    rw [hcount, ht, (hp.signalled.fresh g ht).1]
    exact Nat.lt_succ_self _
  | @finish w before after past t report hr => cases report.tick? <;> exact ⟨Nat.le_refl _, fun g hg => Or.inl hg⟩
  | call | begin | cut | pass => exact ⟨Nat.le_refl _, fun g hg => Or.inl hg⟩

/-- A guard that is spent stays so: guards that are given out are new ones. -/
theorem Spent.step (h : x.Spent g) (hs : State.Step s x e y) : y.Spent g := by
  obtain ⟨hle, hmem⟩ := hs.minted
  refine ⟨fun hg => ?_, h.old.trans_le hle⟩
  rcases hmem g hg with hold | ⟨hnew, _⟩
  · exact h.gone hold
  · exact Nat.ne_of_lt h.old hnew

/-- A guard that is spent is never live again. -/
theorem Run.spent (h : State.Run s x es y) (hx : x.Spent g) : y.Spent g := h.invariant hx fun _ _ _ _ hx hs => hx.step hs

/-- All live guards have numbers that were given out. -/
theorem Run.minted (h : State.Run s start es x) (hg : start.world.guards = []) : ∀ g ∈ x.world.guards, g.id < x.world.guardCount := by
  refine h.invariant (P := fun x => ∀ g ∈ x.world.guards, g.id < x.world.guardCount) (by simp [hg]) fun e _ x y hx hs g hg => ?_
  obtain ⟨hle, hmem⟩ := hs.minted
  exact (hmem g hg).elim (fun hold => (hx g hold).trans_le hle) And.right

/-- A guard that is given back is spent. -/
theorem Made.spent {ms : List Move} {a : Unit} {y z : State} (h : Made s start es x t ms (.answered (.unmark g) a) y z)
    (hg : g.id < y.world.guardCount) : x.Spent g := by
  obtain ⟨_, _, _, _, hx⟩ := h.run
  obtain ⟨u, _, _, _, _, p, hp⟩ := h.task
  refine hx.spent ⟨?_, hg.trans_le h.step.minted.1⟩
  rw [hp.signalled.guards]
  simp [Move.live]

/-- In a run from a quiet state, a guard that a task had and has no more was given back, or handed to a tick that the task started. -/
theorem Run.parted (h : State.Run s start es x) (hq : start.Quiet) (hm : t ∈ x.tasks ++ x.ended) {ms ms' : List Move}
    (hms : t.moves = ms ++ ms') (hg : (ms.foldl Duty.after t.origin.duty).guard = some g) (hn : t.duty.guard ≠ some g) :
    x.Spent g ∨ t.origin.tick? = none ∧ ∃ n ms₁ ms₂, t.moves = (ms₁ ++ [.answered (.spawn (.tick g)) n]) ++ ms₂ ∧
      n ∈ ((ms₁ ++ [.answered (.spawn (.tick g)) n]).foldl Duty.after t.origin.duty).ticks := by
  obtain ⟨ms₁, m, ms₂, y, z, u, p, hsplit, hmade, hu, hid, ho, hd, hgoes, hbefore, hafter⟩ :=
    h.switched hq.tasks hq.ended hm (P := fun d => d.guard = some g) hms hg hn
  obtain ⟨_, _, _, hy, _⟩ := hmade.run
  rcases hd.parts hgoes hbefore hafter with ⟨a, rfl⟩ | ⟨n, rfl⟩
  · -- the task held the guard, so it was given out before
    have hkept : start.Kept lawless := hq.kept fun _ => trivial
    have hexclusive : y.Exclusive := State.exclusive_of_kept (hy.kept hkept fun e _ => lawless_allows e)
    have hheld : g ∈ u.guards := by
      rw [hd.guards, hbefore]
      exact List.mem_singleton_self g
    have hlive : g ∈ y.world.guards :=
      hexclusive.owners.subset (List.mem_append_left _ (List.mem_flatMap.2 ⟨u, hu, hheld⟩))
    exact Or.inl (hmade.spent (hy.minted hq.guards g hlive))
  · refine Or.inr ⟨?_, n, ms₁, ms₂, by rw [hsplit, List.append_assoc]; rfl, ?_⟩
    · by_contra htick
      rw [← ho] at htick
      nomatch ((hy.barren hq.tasks u hu).tick (Option.isSome_iff_ne_none.2 htick)).asks (hgoes.asks (r := .spawn (.tick g)) rfl)
    · rw [List.foldl_append]
      exact List.mem_append_right _ (List.mem_singleton_self n)

/-- A guard is spent when the tick is over that it was handed to. -/
theorem Run.ticked (h : State.Run s start es x) (hq : start.Quiet) (ht : t ∈ x.ended) (ho : t.origin = .job (.tick g)) : x.Spent g := by
  have hm : t ∈ x.tasks ++ x.ended := List.mem_append_right _ ht
  obtain ⟨report, hr⟩ := ((h.recorded hq.tasks hq.ended).ended t ht).2
  have hover := ((h.dutiful hq.tasks hq.ended t hm).over hr).1
  have hgiven : (([] : List Move).foldl Duty.after t.origin.duty).guard = some g := by
    rw [ho]
    rfl
  rcases h.parted hq hm (List.nil_append _).symm hgiven (by rw [hover]; exact nofun) with hspent | ⟨hnone, _⟩
  · exact hspent
  · rw [ho] at hnone
    nomatch hnone

/-- What is known of a tick that a task was told about: it has ended, it is the one that was started under the number, and it reported
what the task was told. -/
theorem Run.told (h : State.Run s start es x) (hq : start.Quiet) (hf : start.world.finished = []) (ht : t ∈ x.ended)
    {a : Except String TickResult} (hs : .answered (.spawn (.tick g)) n ∈ t.moves) (hj : .answered (.join n) a ∈ t.moves) :
    ∃ v ∈ x.ended, v.id = n ∧ v.origin = .job (.tick g) ∧ ∃ report, v.program = .done report ∧ report.tick? = some a := by
  have hnumbered := h.numbered hq.tasks hq.ended hq.spawned
  obtain ⟨v, hv, hid, hreport⟩ := (h.joined hq.tasks hq.ended hf).past t ht n a hj
  have horigin := hnumbered.spawned t (List.mem_append_right _ ht) (.tick g) n hs
  exact ⟨v, hv, hid, hnumbered.origin_eq (List.mem_append_right _ hv) (hid ▸ horigin), hreport⟩

/-- A task that has ended and was not cut short holds up no URL: the guards that it took are spent, whether it gave them back or handed
them to ticks. -/
theorem Run.restores (h : State.Run s start es x) (hq : start.Quiet) (hf : start.world.finished = []) (ht : t ∈ x.ended)
    (hc : t.cut = none) {m : Move} (hm : m ∈ t.moves) (hg : m.taken? = some g) : g ∉ x.world.guards := by
  have hmem : t ∈ x.tasks ++ x.ended := List.mem_append_right _ ht
  obtain ⟨report, hr⟩ := ((h.recorded hq.tasks hq.ended).ended t ht).2
  obtain ⟨hguard, -, hticks⟩ := (h.dutiful hq.tasks hq.ended t hmem).over hr
  obtain ⟨ms, ms', hms⟩ := List.append_of_mem hm
  have hsplit : t.moves = (ms ++ [m]) ++ ms' := by rw [hms, List.append_assoc]; rfl
  have htook : ((ms ++ [m]).foldl Duty.after t.origin.duty).guard = some g := by
    rw [List.foldl_append]
    unfold Move.taken? at hg
    split at hg <;> cases hg <;> rfl
  rcases h.parted hq hmem hsplit htook (by rw [hguard]; exact nofun) with hspent | ⟨_, n, ms₁, ms₂, hmoves, hn⟩
  · exact hspent.gone
  · -- the tick was waited for, for in the end none is left to be waited for
    have hover : n ∉ t.duty.ticks := by
      rw [hticks hc]
      exact List.not_mem_nil
    obtain ⟨ms₃, m', ms₄, _, _, u, p, hjoin, _, _, _, _, hd, hgoes, hbefore, hafter⟩ :=
      h.switched hq.tasks hq.ended hmem (P := fun d => n ∈ d.ticks) hmoves hn hover
    obtain ⟨a, rfl⟩ := hd.joins hgoes hbefore hafter
    have hspawned : .answered (.spawn (.tick g)) n ∈ t.moves := by simp [hmoves]
    have hjoined : .answered (.join n) a ∈ t.moves := by simp [hjoin]
    obtain ⟨v, hv, _, horigin, _⟩ := h.told hq hf ht hspawned hjoined
    exact (h.ticked hq hv horigin).gone

end State

end CatalogSync.Engine
