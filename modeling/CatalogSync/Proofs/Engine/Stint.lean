import CatalogSync.Proofs.Engine.Exclusion
import CatalogSync.Proofs.Engine.Work

/-!
# Spells and stints

A spell is a stretch of a run in which one task works on a part of its program (`State.Spell`). It splits at each thing that the task
does in it, into what happened before and what happened after (`State.Spell.of_deed`). Where it does not matter which task it is and
what else happens meanwhile, a spell is a stint (`State.Stint`). While the task holds the guard of a URL, the others leave its site
alone, so a stint is work among others who spare the URL (`State.Stint.works`).
-/

namespace CatalogSync.Engine

open Regime

/-! ## Spells and stints -/

/-- The task that an event is about, of those that were there already. -/
def Event.subject? : Event → Option Nat
  | .moved id _ | .ended id _ | .cut id _ => some id
  | .called _ _ | .began _ _ | .passed _ => none

/-- A stretch of a run in which a task works on a program, before something else that it has to do: the events of the stretch, what
the task did in it, the state that this led to, and the task as it is then with what is left of the program. -/
inductive State.Spell (s : Scheduler) {α : Type} (k : α → Program Report) (x : State) (u : Task) (p : Program α) :
    List Event → List Deed → State → Task → Program α → Prop where
  | start (hu : u ∈ x.tasks) (hp : u.program = p >>= k) : Spell s k x u p [] [] x u p
  | own {w w' : World} {before after past : List Task} {t : Task} {q q' : Program α} {m : Move} {es : List Event} {ds : List Deed}
    (h : Spell s k x u p es ds ⟨w, before ++ t :: after, past⟩ t q) (hm : Program.Step w q m w' q') :
    Spell s k x u p (es ++ [.moved t.id m]) (ds ++ [⟨w, m, w'⟩]) ⟨w', before ++ t.move m (q' >>= k) :: after, past⟩
      (t.move m (q' >>= k)) q'
  | other {y z : State} {t : Task} {q : Program α} {e : Event} {es : List Event} {ds : List Deed}
    (h : Spell s k x u p es ds y t q) (hs : State.Step s y e z) (he : e.subject? ≠ some t.id) : Spell s k x u p (es ++ [e]) ds z t q

/-- A spell of one task or another. -/
def State.Stint (s : Scheduler) {α : Type} (k : α → Program Report) (x : State) (p : Program α) (ds : List Deed) (z : State) (t : Task)
    (q : Program α) : Prop :=
  ∃ u es, State.Spell s k x u p es ds z t q

namespace State.Stint

variable {s : Scheduler} {α : Type} {k : α → Program Report} {x : State} {p : Program α}

/-- A stint starts with no deed done. -/
theorem start {t : Task} (ht : t ∈ x.tasks) (hp : t.program = p >>= k) : Stint s k x p [] x t p := ⟨t, [], .start ht hp⟩

/-- A move of the task's own goes on with the stint and is its next deed. -/
theorem own {w w' : World} {before after past : List Task} {t : Task} {q q' : Program α} {m : Move} {ds : List Deed}
    (h : Stint s k x p ds ⟨w, before ++ t :: after, past⟩ t q) (hm : Program.Step w q m w' q') :
    Stint s k x p (ds ++ [⟨w, m, w'⟩]) ⟨w', before ++ t.move m (q' >>= k) :: after, past⟩ (t.move m (q' >>= k)) q' := by
  obtain ⟨u, es, h⟩ := h
  exact ⟨u, _, h.own hm⟩

/-- What others do goes on with the stint and is no deed of it. -/
theorem other {y z : State} {t : Task} {q : Program α} {e : Event} {ds : List Deed} (h : Stint s k x p ds y t q)
    (hs : State.Step s y e z) (he : e.subject? ≠ some t.id) : Stint s k x p ds z t q := by
  obtain ⟨u, es, h⟩ := h
  exact ⟨u, _, h.other hs he⟩

/-- What holds at the start of a stint, and still holds after a deed and after what others do, holds throughout. -/
@[elab_as_elim, induction_eliminator]
theorem induct {motive : ∀ (ds : List Deed) (z : State) (t : Task) (q : Program α), Stint s k x p ds z t q → Prop}
    (start : ∀ {t : Task} (ht : t ∈ x.tasks) (hp : t.program = p >>= k), motive [] x t p (.start ht hp))
    (own : ∀ {w w' : World} {before after past : List Task} {t : Task} {q q' : Program α} {m : Move} {ds : List Deed}
      (h : Stint s k x p ds ⟨w, before ++ t :: after, past⟩ t q) (hm : Program.Step w q m w' q'),
      motive ds ⟨w, before ++ t :: after, past⟩ t q h → motive _ _ _ _ (h.own hm))
    (other : ∀ {y z : State} {t : Task} {q : Program α} {e : Event} {ds : List Deed} (h : Stint s k x p ds y t q)
      (hs : State.Step s y e z) (he : e.subject? ≠ some t.id), motive ds y t q h → motive _ _ _ _ (h.other hs he))
    {ds : List Deed} {z : State} {t : Task} {q : Program α} (h : Stint s k x p ds z t q) : motive ds z t q h := by
  obtain ⟨u, es, h⟩ := h
  induction h with
  | start hu hp => exact start hu hp
  | own h hm ih => exact own ⟨u, _, h⟩ hm ih
  | other h hs he ih => exact other ⟨u, _, h⟩ hs he ih

end State.Stint

/-! ## What others leave alone -/

/-- What others may do to a URL whose guard they do not hold: register a service there, if there is none. -/
structure World.Spares (url : AccessUrl) (w w' : World) : Prop where
  shelf : w'.catalog.entries url = w.catalog.entries url
  entry : ∀ s, w.registry.get? url = some s → w'.registry.get? url = some s

namespace World.Spares

variable {url : AccessUrl} {w w' w'' : World}

theorem refl (w : World) : w.Spares url w := ⟨rfl, fun _ h => h⟩

theorem trans (h : w.Spares url w') (h' : w'.Spares url w'') : w.Spares url w'' :=
  ⟨h'.shelf.trans h.shelf, fun s hs => h'.entry s (h.entry s hs)⟩

/-- Who may do no more than a regime allows others to do spares the site. -/
theorem of_grows {P : Regime} {g : Guard} (h : P.Grows (some (g, w.site g.url)) (some (g, w'.site g.url))) :
    w.Spares g.url w' := by
  generalize hσ : w.site g.url = σ at h
  generalize hσ' : w'.site g.url = σ' at h
  have hshelf : w'.catalog.entries g.url = σ'.shelf ∧ w.catalog.entries g.url = σ.shelf :=
    ⟨congrArg Site.shelf hσ', congrArg Site.shelf hσ⟩
  have hentry : w'.registry.get? g.url = σ'.entry ∧ w.registry.get? g.url = σ.entry :=
    ⟨congrArg Site.entry hσ', congrArg Site.entry hσ⟩
  refine ⟨?_, fun s hs => ?_⟩
  · rw [hshelf.1, hshelf.2]
    cases h <;> rfl
  · rw [hentry.2] at hs
    rw [hentry.1]
    cases h with
    | same => exact hs
    | registered => nomatch hs

end World.Spares

/-- A task beside one with another number. -/
theorem Task.mem_beside {before after : List Task} {t u : Task} (h : t ∈ before ++ u :: after) (hid : some u.id ≠ some t.id) :
    t ∈ before ++ after := by
  rcases List.mem_append.1 h with hb | hb
  · exact List.mem_append_left _ hb
  · rcases List.mem_cons.1 hb with rfl | ha
    · exact absurd rfl hid
    · exact List.mem_append_right _ ha

/-- A task besides another one is among the tasks with it. -/
theorem Task.mem_insert {before after : List Task} {t : Task} (h : t ∈ before ++ after) (u : Task) : t ∈ before ++ u :: after := by
  rcases List.mem_append.1 h with hb | ha
  · exact List.mem_append_left _ hb
  · exact List.mem_append_right _ (List.mem_cons_of_mem u ha)

/-- A step about other tasks leaves a task as it is. -/
theorem State.Step.mem {s : Scheduler} {x y : State} {e : Event} (hs : State.Step s x e y) {t : Task} (ht : t ∈ x.tasks)
    (hid : e.subject? ≠ some t.id) : t ∈ y.tasks := by
  cases hs with
  | call w ts past op => exact List.mem_append_left _ ht
  | begin hj => exact List.mem_append_left _ ht
  | move hp => exact Task.mem_insert (Task.mem_beside ht hid) _
  | finish hr => exact Task.mem_beside ht hid
  | cut hi reason => exact Task.mem_insert (Task.mem_beside ht hid) _
  | pass w ts past n => exact ht

/-- A step about other tasks spares the URLs whose guards a task holds. -/
theorem State.Kept.spares {P : Regime} {s : Scheduler} {x y : State} {e : Event} (h : x.Kept P) (hs : State.Step s x e y)
    (he : P.AllowsEvent e) {t : Task} (ht : t ∈ x.tasks) (hid : e.subject? ≠ some t.id) {g : Guard} (hg : g ∈ t.guards) :
    x.world.Spares g.url y.world := by
  cases hs with
  | @move w w' before after past u m p hp =>
    refine .of_grows (h.grows_of_move hp he g (List.mem_append_left _ ?_))
    rw [← List.flatMap_append]
    exact List.mem_flatMap.2 ⟨t, Task.mem_beside ht hid, hg⟩
  | @finish w before after past u report hr =>
    cases report.tick? with
    | none => exact .refl w
    | some r => exact ⟨rfl, fun _ h => h⟩
  | cut hi reason => exact .refl _
  | call | begin | pass => exact ⟨rfl, fun _ h => h⟩

/-! ## Spells of a task -/

namespace State.Spell

variable {s : Scheduler} {α β : Type} {x z : State} {es : List Event} {ds : List Deed} {t u : Task}

/-- A spell is a stint of its task. -/
theorem stint {k : α → Program Report} {p q : Program α} (h : Spell s k x u p es ds z t q) : Stint s k x p ds z t q := ⟨u, es, h⟩

/-- The task stays the same task. -/
theorem id {k : α → Program Report} {p q : Program α} (h : Spell s k x u p es ds z t q) : t.id = u.id := by
  induction h with
  | start => rfl
  | own _ _ ih => exact ih
  | other _ _ _ ih => exact ih

/-- Its task has the rest of the program before it, and what comes after that. -/
theorem mem {k : α → Program Report} {p q : Program α} (h : Spell s k x u p es ds z t q) : t ∈ z.tasks ∧ t.program = q >>= k := by
  induction h with
  | start hu hp => exact ⟨hu, hp⟩
  | own => exact ⟨List.mem_append_right _ List.mem_cons_self, rfl⟩
  | other _ hs he ih => exact ⟨hs.mem ih.1 he, ih.2⟩

/-- The step of the state with which the task makes its next move. -/
theorem step {k : α → Program Report} {p q q' : Program α} {w w' : World} {before after past : List Task} {m : Move}
    (h : Spell s k x u p es ds ⟨w, before ++ t :: after, past⟩ t q) (hm : Program.Step w q m w' q') :
    State.Step s ⟨w, before ++ t :: after, past⟩ (.moved t.id m) ⟨w', before ++ t.move m (q' >>= k) :: after, past⟩ :=
  .move (h.mem.2 ▸ hm.bind k)

/-- A spell is part of a run. -/
theorem run {k : α → Program Report} {p q : Program α} (h : Spell s k x u p es ds z t q) : State.Run s x es z := by
  induction h with
  | start => exact .refl
  | own h hm ih => exact ih.step (h.step hm)
  | other _ hs _ ih => exact ih.step hs

/-- The moves of the task are those of the program. -/
theorem trace {k : α → Program Report} {p q : Program α} (h : Spell s k x u p es ds z t q) : p.Trace (ds.map Deed.move) q := by
  induction h with
  | start => exact .nil _
  | own _ hm ih =>
    rw [List.map_append]
    exact ih.concat hm.goes
  | other _ _ _ ih => exact ih

/-- A spell after a spell of the same task. -/
theorem append {k : α → Program Report} {p q r : Program α} {y : State} {v : Task} {es' : List Event} {ds' : List Deed}
    (h : Spell s k x u p es ds y v q) (h' : Spell s k y v q es' ds' z t r) : Spell s k x u p (es ++ es') (ds ++ ds') z t r := by
  induction h' with
  | start => rwa [List.append_nil, List.append_nil]
  | own _ hm ih =>
    rw [← List.append_assoc, ← List.append_assoc]
    exact ih.own hm
  | other _ hs he ih =>
    rw [← List.append_assoc]
    exact ih.other hs he

/-- A spell splits at each of its deeds. -/
theorem of_deed {k : α → Program Report} {p q : Program α} (h : Spell s k x u p es ds z t q) {ds₁ ds₂ : List Deed} {d : Deed}
    (hd : ds = ds₁ ++ d :: ds₂) :
    ∃ es₁ es₂ y v q₀ y' v' q₁, es = es₁ ++ .moved u.id d.move :: es₂ ∧ Spell s k x u p es₁ ds₁ y v q₀ ∧
      y.world = d.before ∧ Program.Step d.before q₀ d.move d.after q₁ ∧ State.Step s y (.moved u.id d.move) y' ∧ y'.world = d.after ∧
      Spell s k y v q₀ [.moved u.id d.move] [d] y' v' q₁ ∧ Spell s k y' v' q₁ es₂ ds₂ z t q := by
  induction h generalizing ds₂ with
  | start => exact absurd hd (by simp)
  | @own w w' before after past t q q' m es ds h hm ih =>
    rcases concat_eq_split hd with ⟨rfl, rfl, rfl⟩ | ⟨ds₂', rfl, hds⟩
    · have hown : Spell s k _ t q ([] ++ [.moved t.id m]) ([] ++ [⟨w, m, w'⟩]) _ _ q' := .own (.start h.mem.1 h.mem.2) hm
      refine ⟨es, [], _, t, q, _, _, q', by rw [h.id], h, rfl, hm, h.id ▸ h.step hm, rfl, h.id ▸ hown, ?_⟩
      exact .start (List.mem_append_right _ List.mem_cons_self) rfl
    · obtain ⟨es₁, es₂, y, v, q₀, y', v', q₁, rfl, hy, hw, hm', hstep, hw', hdeed, hrest⟩ := ih hds
      exact ⟨es₁, _, y, v, q₀, y', v', q₁, by rw [List.append_assoc, List.cons_append], hy, hw, hm', hstep, hw', hdeed,
      hrest.own hm⟩
  | other _ hs he ih =>
    obtain ⟨es₁, es₂, y, v, q₀, y', v', q₁, rfl, hy, hw, hm', hstep, hw', hdeed, hrest⟩ := ih hd
    exact ⟨es₁, _, y, v, q₀, y', v', q₁, by rw [List.append_assoc, List.cons_append], hy, hw, hm', hstep, hw', hdeed,
      hrest.other hs he⟩

/-- A spell without deeds leaves the task and its program as they are. -/
theorem of_no_deed {k : α → Program Report} {p q : Program α} (h : Spell s k x u p es [] z t q) : t = u ∧ q = p := by
  generalize hds : ([] : List Deed) = ds at h
  induction h with
  | start => exact ⟨rfl, rfl⟩
  | own => exact absurd hds.symm (by simp)
  | other _ _ _ ih => exact ih hds

/-- A spell of the first of two programs is one of both. -/
theorem bind {k : β → Program Report} {p q : Program α} {f : α → Program β}
    (h : Spell s (fun a => f a >>= k) x u p es ds z t q) : Spell s k x u (p >>= f) es ds z t (q >>= f) := by
  induction h with
  | start hu hp => exact .start hu (by rw [hp, bind_assoc])
  | own _ hm ih =>
    rw [← bind_assoc]
    exact ih.own (hm.bind f)
  | other _ hs he ih => exact ih.other hs he

/-- A spell of one program after the other is one of the first, or it goes on with a deed of the other after the first is done. -/
theorem of_bind {k : β → Program Report} {p : Program α} {f : α → Program β} {q : Program β}
    (h : Spell s k x u (p >>= f) es ds z t q) :
    (∃ p', q = p' >>= f ∧ Spell s (fun a => f a >>= k) x u p es ds z t p') ∨
    ∃ es₁ es₂ ds₁ d ds₂ y v a, es = es₁ ++ es₂ ∧ ds = ds₁ ++ d :: ds₂ ∧ d.before = y.world ∧
      Spell s (fun a => f a >>= k) x u p es₁ ds₁ y v (.done a) ∧ Spell s k y v (f a) es₂ (d :: ds₂) z t q := by
  induction h with
  | start ht hp => exact Or.inl ⟨p, rfl, .start ht (by rw [hp, bind_assoc])⟩
  | @own w w' before after past t q q' m es ds _ hm ih =>
    rcases ih with ⟨p', rfl, hp⟩ | ⟨es₁, es₂, ds₁, d, ds₂, y, v, a, rfl, rfl, hd, hp, hf⟩
    · rcases hm.of_bind with ⟨a, rfl, hm'⟩ | ⟨p'', hm', rfl⟩
      · have hf : Spell s k ⟨w, before ++ t :: after, past⟩ t (f a) [] [] _ t (f a) := .start hp.mem.1 hp.mem.2
        exact Or.inr ⟨es, _, ds, _, [], _, t, a, rfl, rfl, rfl, hp, hf.own hm'⟩
      · rw [bind_assoc]
        exact Or.inl ⟨p'', rfl, hp.own hm'⟩
    · exact Or.inr ⟨es₁, _, ds₁, d, _, y, v, a, List.append_assoc _ _ _, by rw [List.append_assoc]; rfl, hd, hp, hf.own hm⟩
  | other _ hs he ih =>
    rcases ih with ⟨p', rfl, hp⟩ | ⟨es₁, es₂, ds₁, d, ds₂, y, v, a, rfl, rfl, hd, hp, hf⟩
    · exact Or.inl ⟨p', rfl, hp.other hs he⟩
    · exact Or.inr ⟨es₁, _, ds₁, d, ds₂, y, v, a, List.append_assoc _ _ _, rfl, hd, hp, hf.other hs he⟩

/-- A spell of a program that asks begins with the answer. -/
theorem of_ask {k : α → Program Report} {r : Request} {f : r.Answer → Program α} {d : Deed} {q : Program α}
    (h : Spell s k x u (.ask r f) es (d :: ds) z t q) :
    ∃ es₁ es₂ y₀ y v a, es = es₁ ++ .moved u.id (.answered r a) :: es₂ ∧ d = ⟨y₀.world, .answered r a, y.world⟩ ∧
      Spell s k x u (.ask r f) es₁ [] y₀ u (.ask r f) ∧ State.Step s y₀ (.moved u.id (.answered r a)) y ∧
      Answers y₀.world r a y.world ∧ Spell s k y v (f a) es₂ ds z t q := by
  obtain ⟨es₁, es₂, y₀, v₀, q₀, y, v, q₁, rfl, hp, hw, hm, hstep, hw', _, hf⟩ := h.of_deed (show d :: ds = [] ++ d :: ds from rfl)
  obtain ⟨rfl, rfl⟩ := hp.of_no_deed
  obtain ⟨w, m, w'⟩ := d
  cases hm with
  | @ask _ _ a _ ha =>
    subst hw
    subst hw'
    exact ⟨es₁, es₂, y₀, y, v, a, rfl, rfl, hp, hstep, ha, hf⟩

/-- A spell of a program that waits for a guard is one of waiting, or one with the guard after it was taken. -/
theorem of_hold {k : α → Program Report} {url : AccessUrl} {vigil : Vigil} {f : Guard → Program α} {q : Program α}
    (h : Spell s k x u (.hold url vigil f) es ds z t q) :
    (Deed.calls ds = [] ∧ ∃ vigil', q = .hold url vigil' f) ∨
    ∃ es₁ es₂ ds₁ ds₂ y₀ v₀ vigil' y v g, es = es₁ ++ .moved u.id (.took g) :: es₂ ∧
      ds = ds₁ ++ ⟨y₀.world, .took g, y.world⟩ :: ds₂ ∧ Deed.calls ds₁ = [] ∧ y₀.world.tryMark url = (some g, y.world) ∧
      Spell s k x u (.hold url vigil f) es₁ ds₁ y₀ v₀ (.hold url vigil' f) ∧ State.Step s y₀ (.moved u.id (.took g)) y ∧
      Spell s k y v (f g) es₂ ds₂ z t q := by
  induction h with
  | start => exact Or.inl ⟨rfl, vigil, rfl⟩
  | @own w w' before after past t q q' m es ds h hm ih =>
    rcases ih with ⟨hc, vigil', rfl⟩ | ⟨es₁, es₂, ds₁, ds₂, y₀, v₀, vigil', y, v, g, rfl, rfl, hc, hg, hp, hy, hf⟩
    · cases hm with
      | listen | yield | woken => exact Or.inl ⟨by rw [Deed.calls_append, hc]; rfl, _, rfl⟩
      | @take _ _ _ g _ hg =>
        have hf : Spell s k ⟨w', before ++ t.move (.took g) (f g >>= k) :: after, past⟩ _ (f g) [] [] _ _ (f g) :=
          .start (List.mem_append_right _ List.mem_cons_self) rfl
        exact Or.inr ⟨es, [], ds, [], _, t, _, _, _, g, by rw [h.id], rfl, hc, hg, h, h.id ▸ h.step (.take hg), hf⟩
    · exact Or.inr ⟨es₁, _, ds₁, _, y₀, v₀, vigil', y, v, g, List.append_assoc _ _ _, List.append_assoc _ _ _, hc, hg, hp, hy,
        hf.own hm⟩
  | other h hs he ih =>
    rcases ih with ⟨hc, vigil', rfl⟩ | ⟨es₁, es₂, ds₁, ds₂, y₀, v₀, vigil', y, v, g, rfl, rfl, hc, hg, hp, hy, hf⟩
    · exact Or.inl ⟨hc, vigil', rfl⟩
    · exact Or.inr ⟨es₁, _, ds₁, ds₂, y₀, v₀, vigil', y, v, g, List.append_assoc _ _ _, rfl, hc, hg, hp, hy, hf.other hs he⟩

end State.Spell

/-! ## Stints of a task -/

namespace State.Stint

variable {s : Scheduler} {α β : Type} {x z : State} {ds : List Deed} {t : Task}

/-- The task of a stint is at work, and has got as far as the stint says. -/
theorem mem {k : α → Program Report} {p q : Program α} (h : Stint s k x p ds z t q) : t ∈ z.tasks ∧ t.program = q >>= k := by
  obtain ⟨u, es, h⟩ := h
  exact h.mem

/-- A deed of a stint is a step of the system. -/
theorem step {k : α → Program Report} {p q q' : Program α} {w w' : World} {before after past : List Task} {m : Move}
    (h : Stint s k x p ds ⟨w, before ++ t :: after, past⟩ t q) (hm : Program.Step w q m w' q') :
    State.Step s ⟨w, before ++ t :: after, past⟩ (.moved t.id m) ⟨w', before ++ t.move m (q' >>= k) :: after, past⟩ := by
  obtain ⟨u, es, h⟩ := h
  exact h.step hm

/-- A stint is part of a run. -/
theorem run {k : α → Program Report} {p q : Program α} (h : Stint s k x p ds z t q) : ∃ es, State.Run s x es z := by
  obtain ⟨u, es, h⟩ := h
  exact ⟨es, h.run⟩

/-- The deeds of a stint are moves of its program. -/
theorem trace {k : α → Program Report} {p q : Program α} (h : Stint s k x p ds z t q) : p.Trace (ds.map Deed.move) q := by
  obtain ⟨u, es, h⟩ := h
  exact h.trace

/-- A stint of one program after the other is one of the first, or one of the other after the first is done. -/
theorem of_bind {k : β → Program Report} {p : Program α} {f : α → Program β} {q : Program β}
    (h : Stint s k x (p >>= f) ds z t q) :
    (∃ p', q = p' >>= f ∧ Stint s (fun a => f a >>= k) x p ds z t p') ∨
    ∃ ds₁ ds₂ y u a, ds = ds₁ ++ ds₂ ∧ Stint s (fun a => f a >>= k) x p ds₁ y u (.done a) ∧ Stint s k y (f a) ds₂ z t q := by
  obtain ⟨u, es, h⟩ := h
  rcases h.of_bind with ⟨p', hq, hp⟩ | ⟨_, _, ds₁, d, ds₂, y, v, a, _, hds, _, hp, hf⟩
  · exact Or.inl ⟨p', hq, hp.stint⟩
  · exact Or.inr ⟨ds₁, d :: ds₂, y, v, a, hds, hp.stint, hf.stint⟩

/-- A stint of a program that asks begins with the answer. -/
theorem of_ask {k : α → Program Report} {r : Request} {f : r.Answer → Program α} {d : Deed} {q : Program α}
    (h : Stint s k x (.ask r f) (d :: ds) z t q) :
    ∃ y₀ y u a, d = ⟨y₀.world, .answered r a, y.world⟩ ∧ Stint s k x (.ask r f) [] y₀ u (.ask r f) ∧
      State.Step s y₀ (.moved u.id (.answered r a)) y ∧ Answers y₀.world r a y.world ∧ Stint s k y (f a) ds z t q := by
  obtain ⟨u, es, h⟩ := h
  obtain ⟨_, _, y₀, y, v, a, _, hd, hp, hs, ha, hf⟩ := h.of_ask
  exact ⟨y₀, y, u, a, hd, hp.stint, hs, ha, hf.stint⟩

end State.Stint

/-! ## Working through a program among others -/

/-- A move about a request that leaves guards alone leaves the guards that a task holds as they are. -/
theorem Move.guards_of_steady {m : Move} (h : m.About fun r => r.steady = true) (held : List Guard) : m.guards held = held := by
  cases m with
  | answered r a =>
    cases r with
    | tryMark | unmark | spawn => nomatch h
    | _ => rfl
  | expired r => rfl
  | listened | took | yielded | woken => exact False.elim h

/-- What a program asks for first, it asks for first with something after it too. -/
theorem Program.Asks.bind {α β : Type} {p : Program α} {r : Request} (h : p.Asks r) (f : α → Program β) : (p >>= f).Asks r := by
  cases h with
  | ask => exact .ask
  | within => exact .within

/-- A stint of a program that begins with the guard of a URL and keeps it is work among others who spare the URL. -/
theorem State.Stint.works {s : Scheduler} {α : Type} {k : α → Program Report} {x y : State} {p q : Program α} {ds : List Deed}
    {t : Task} (h : State.Stint s k x p ds y t q) (hx : x.Kept lawless) {url : AccessUrl} {r : Request} (ha : p.Asks r)
    (hr : r.guarded? = some url) {Q : α → Log → Prop}
    (hm : p.Meets (working (fun r => r.steady = true) (World.Spares url)) ⟨[], x.world⟩ Q) :
    ∃ v, p.Works (World.Spares url) x.world ds v q ∧ v.Spares url y.world ∧ y.Kept lawless ∧ t.Holds url := by
  induction h with
  | start ht hp => exact ⟨x.world, .nil _ _, .refl _, hx, (hx.tasks _ ht).holds_of_asks (hp ▸ ha.bind k) hr⟩
  | @own w w' before after past t q q' m ds h hstep ih =>
    obtain ⟨v, hw, hv, hy, g, hgt, hu⟩ := ih
    have hsteady := ((hm.works hw).1.step hv hstep).2
    refine ⟨w', hw.concat hv hstep, .refl _, hy.step (h.step hstep) (lawless_allows _), g, ?_, hu⟩
    rwa [Task.guards_move, Move.guards_of_steady hsteady]
  | other h hs he ih =>
    obtain ⟨v, hw, hv, hy, g, hgt, rfl⟩ := ih
    have hspares := hy.spares hs (lawless_allows _) h.mem.1 he hgt
    exact ⟨v, hw, hv.trans hspares, hy.step hs (lawless_allows _), g, hgt, rfl⟩

/-- The moves of a program at work are a trace of it. -/
theorem Program.Works.trace {α : Type} {R : World → World → Prop} {p q : Program α} {w w' : World} {ds : List Deed}
    (h : p.Works R w ds w' q) : p.Trace (ds.map Deed.move) q := by
  induction h with
  | nil => exact .nil _
  | cons hr hm _ ih => exact .cons hm.goes ih

/-- Time passes, and nothing else happens. -/
def World.Passes (w w' : World) : Prop := ∃ t, w' = { w with now := w.now + t }

/-- The work of a task on its own, while time passes, is a stint. -/
theorem Program.Works.stint {s : Scheduler} {α : Type} {k : α → Program Report} {x : State} {p p' q : Program α} {w w' : World}
    {ds₀ ds : List Deed} {before after past : List Task} {t : Task} (h : p'.Works World.Passes w ds w' q)
    (hs : State.Stint s k x p ds₀ ⟨w, before ++ t :: after, past⟩ t p') :
    ∃ t', State.Stint s k x p (ds₀ ++ ds) ⟨w', before ++ t' :: after, past⟩ t' q := by
  induction h generalizing ds₀ t with
  | nil => exact ⟨t, by rwa [List.append_nil]⟩
  | @cons p' p'' q w v v' w' m ds hr hm _ ih =>
    obtain ⟨n, rfl⟩ := hr
    have hpassed := State.Stint.other hs (.pass w _ past n) (fun h => nomatch h)
    obtain ⟨t', ht'⟩ := ih (hpassed.own hm)
    exact ⟨t', by rwa [List.append_assoc] at ht'⟩

end CatalogSync.Engine
