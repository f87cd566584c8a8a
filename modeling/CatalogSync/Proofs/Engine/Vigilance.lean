import CatalogSync.Proofs.Engine.Duty
import CatalogSync.Proofs.Engine.Weave

/-!
# Nobody sleeps on a free service

Whoever waits for a guard listens for releases before each attempt to take it. So a release is heard that comes between the attempt and
the waiting, and whoever waits without having heard one waits for a URL that is in flight, or for whoever took its mark away and is about
to wake those who wait (`State.Run.vigilant`).
-/

namespace CatalogSync.Engine

/-! ## Programs that listen first -/

/-- That a program listens for releases first, wherever it comes to wait for a guard. -/
def Program.ListensFirst {α : Type} : Program α → Prop
  | .done _ => True
  | .ask _ k => ∀ a, (k a).ListensFirst
  | .within _ _ k => ∀ a, (k a).ListensFirst
  | .hold _ vigil k => vigil = .listen ∧ ∀ g, (k g).ListensFirst

namespace Program

variable {α β : Type} {p p' : Program α} {w w' : World} {m : Move}

/-- Two programs that listen first do so one after the other. -/
theorem ListensFirst.bind {f : α → Program β} (h : p.ListensFirst) (hf : ∀ a, (f a).ListensFirst) : (p >>= f).ListensFirst := by
  induction p with
  | done a => exact hf a
  | ask r k ih | within d r k ih => exact fun a => ih a (h a)
  | hold url vigil k ih => exact ⟨h.1, fun g => ih g (h.2 g)⟩

/-- A program that marks no URL waits for no guard. -/
theorem Only.listensFirst {A : Request → Prop} (h : p.Only A) (hA : ∀ url, ¬A (.tryMark url)) : p.ListensFirst := by
  induction p with
  | done a => trivial
  | ask r k ih | within d r k ih => exact fun a => ih a (h.2 a)
  | hold url vigil k ih => exact absurd h.1 (hA url)

/-- What is woven from the parts of operations begins each wait by listening. -/
theorem Woven.listensFirst {y : Synchronizer} (h : p.Woven y) : p.ListensFirst := by
  induction h with
  | done a => trivial
  | request h => exact fun _ => trivial
  | hold url => exact ⟨rfl, fun _ => trivial⟩
  | attempt g => exact (y.only_attempt g).listensFirst fun _ => nofun
  | cleanUp url => exact (plain_cleanUp url).listensFirst fun _ => nofun
  | bind _ _ ih ihf => exact ih.bind ihf

/-- Where a program is that waits for a guard, and the URL. -/
def vigil? : Program α → Option (AccessUrl × Vigil)
  | .hold url vigil _ => some (url, vigil)
  | _ => none

/-- That a program listens first wherever it comes to wait for a guard after this one. -/
def Poised : Program α → Prop
  | .hold _ _ k => ∀ g, (k g).ListensFirst
  | p => p.ListensFirst

/-- Who listens first everywhere does so after the present wait. -/
theorem ListensFirst.poised (h : p.ListensFirst) : p.Poised := by
  cases p with
  | hold url vigil k => exact h.2
  | done | ask | within => exact h

/-- Who listens first, and waits now, is about to listen. -/
theorem ListensFirst.vigil_eq (h : p.ListensFirst) {url : AccessUrl} {vigil : Vigil} (hv : p.vigil? = some (url, vigil)) :
    vigil = .listen := by
  cases p with
  | hold url' vigil' k =>
    cases hv
    exact h.1
  | done | ask | within => nomatch hv

/-- A poised program stays so, whatever happens to it. -/
theorem Goes.poised (h : Goes p m p') (hp : p.Poised) : p'.Poised := by
  cases h with
  | ask a => exact (hp a).poised
  | within a => exact (hp (some a)).poised
  | expire => exact (hp none).poised
  | take g => exact (hp g).poised
  | listen | yield | woken => exact hp

/-- Where a program comes to that waits for a guard: it is about to listen, or it has just begun to, or it tried and found the URL in
flight. -/
theorem Step.vigil (h : Step w p m w' p') (hp : p.Poised) {url : AccessUrl} {vigil : Vigil} (hv : p'.vigil? = some (url, vigil)) :
    vigil = .listen ∨ vigil = .attempt w'.releases ∨
      ∃ heard, p.vigil? = some (url, .attempt heard) ∧ vigil = .wait heard ∧ url ∈ w'.inFlight := by
  cases h with
  | ask ha => exact Or.inl ((hp _).vigil_eq hv)
  | within ha => exact Or.inl ((hp _).vigil_eq hv)
  | expire he => exact Or.inl ((hp _).vigil_eq hv)
  | take ht => exact Or.inl ((hp _).vigil_eq hv)
  | listen =>
    cases hv
    exact Or.inr (Or.inl rfl)
  | yield ht =>
    obtain ⟨hmarked, rfl⟩ := World.tryMark_eq_none ht
    cases hv
    exact Or.inr (Or.inr ⟨_, rfl, rfl, hmarked⟩)
  | woken hr =>
    cases hv
    exact Or.inl rfl

end Program

namespace Move

/-! ## What those know who wait -/

/-- The guard that a move takes. -/
def taken? : Move → Option Guard
  | answered (.tryMark _) (some g) | took g => some g
  | _ => none

/-- The live guards after a move. -/
def live (guards : List Guard) : Move → List Guard
  | answered (.tryMark _) (some g) | took g => g :: guards
  | answered (.unmark g) _ => guards.filter (· ≠ g)
  | _ => guards

/-- The marks after a move. -/
def marks (urls : List AccessUrl) : Move → List AccessUrl
  | answered (.tryMark _) (some g) | took g => g.url :: urls
  | answered (.unmark g) _ => urls.filter (· ≠ g.url)
  | _ => urls

/-- The number of releases after a move. -/
def released (releases : Nat) : Move → Nat
  | answered .wake _ => releases + 1
  | _ => releases

/-- What a move does to guards and marks, and what it lets those know who wait. -/
structure Signalled (w : World) (m : Move) (w' : World) : Prop where
  /-- A guard that is taken is a new one, for a URL that was free. -/
  fresh : ∀ g, m.taken? = some g → g.id = w.guardCount ∧ g.url ∉ w.inFlight
  guards : w'.guards = m.live w.guards
  guardCount : w'.guardCount = w.guardCount + m.taken?.toList.length
  inFlight : w'.inFlight = m.marks w.inFlight
  releases : w'.releases = m.released w.releases

/-- No move takes a release back. -/
theorem le_released (releases : Nat) (m : Move) : releases ≤ m.released releases := by
  unfold released
  split
  · exact Nat.le_succ _
  · exact Nat.le_refl _

/-- A mark goes only where its guard is given back. -/
theorem mem_marks (m : Move) {urls : List AccessUrl} {url : AccessUrl} (h : url ∈ urls) :
    url ∈ m.marks urls ∨ ∃ g a, m = .answered (.unmark g) a := by
  unfold marks
  split
  · exact Or.inl (List.mem_cons_of_mem _ h)
  · exact Or.inl (List.mem_cons_of_mem _ h)
  · exact Or.inr ⟨_, _, rfl⟩
  · exact Or.inl h

end Move

/-- A move that takes no guard. -/
theorem Move.signalled_of_none {w w' : World} {m : Move} (ht : m.taken? = none) (hg : w'.guards = m.live w.guards)
    (hc : w'.guardCount = w.guardCount) (hm : w'.inFlight = m.marks w.inFlight) (hr : w'.releases = m.released w.releases) :
    m.Signalled w w' := by
  refine ⟨fun g hg => ?_, hg, by rw [hc, ht]; rfl, hm, hr⟩
  cases ht.symm.trans hg

/-- Taking a free mark brings its guard to life and signals nothing. -/
theorem World.signalled_of_tryMark {w w' : World} {url : AccessUrl} {g : Guard} {m : Move} (h : w.tryMark url = (some g, w'))
    (ht : m.taken? = some g) (hl : m.live w.guards = g :: w.guards) (hm : m.marks w.inFlight = g.url :: w.inFlight)
    (hr : m.released w.releases = w.releases) : m.Signalled w w' := by
  obtain ⟨hfree, rfl, rfl⟩ := World.tryMark_eq_some h
  refine ⟨fun g hg => ?_, hl.symm, by rw [ht]; rfl, hm.symm, hr.symm⟩
  cases ht.symm.trans hg
  exact ⟨rfl, hfree⟩

/-- What a request does to guards and marks is what its move says. -/
theorem World.signalled_of_perform {w w' : World} {r : Request} {a : r.Answer} (h : w.perform r = some (a, w')) :
    (Move.answered r a).Signalled w w' := by
  cases r with
  | tryMark url =>
    have ht : w.tryMark url = (a, w') := Option.some.inj h
    cases a with
    | none =>
      obtain ⟨_, rfl⟩ := World.tryMark_eq_none ht
      exact Move.signalled_of_none rfl rfl rfl rfl rfl
    | some g => exact World.signalled_of_tryMark ht rfl rfl rfl rfl
  | swap url expected new =>
    have hswap : w.swap url expected new = (a, w') := Option.some.inj h
    rcases World.swap_cases hswap with ⟨_, _, _, _, rfl⟩ | ⟨_, _, _, rfl⟩ <;> exact Move.signalled_of_none rfl rfl rfl rfl rfl
  | sleep | join | permit =>
    simp only [World.perform] at h
    split at h
    · cases h
      exact Move.signalled_of_none rfl rfl rfl rfl rfl
    · cases h
  | fetch | advertised | apply => cases h
  | _ =>
    cases h
    exact Move.signalled_of_none rfl rfl rfl rfl rfl

/-- So is what any step of a program does. -/
theorem Program.Step.signalled {α : Type} {w w' : World} {p p' : Program α} {m : Move} (h : Program.Step w p m w' p') :
    m.Signalled w w' := by
  cases h with
  | ask ha | within ha =>
    cases ha with
    | world hw => exact World.signalled_of_perform hw
    | resolved | fetched | advertised | applied | refused => exact Move.signalled_of_none rfl rfl rfl rfl rfl
  | expire | listen | woken => exact Move.signalled_of_none rfl rfl rfl rfl rfl
  | take ht => exact World.signalled_of_tryMark ht rfl rfl rfl rfl
  | yield ht =>
    obtain ⟨_, rfl⟩ := World.tryMark_eq_none ht
    exact Move.signalled_of_none rfl rfl rfl rfl rfl

/-! ## Who has missed no release -/

/-- That a program, where it waits for a guard, has heard what there was to be heard, given whether a release is about to be signalled. -/
structure Program.Alert {α : Type} (w : World) (soon : Prop) (p : Program α) : Prop where
  attempt : ∀ url heard, p.vigil? = some (url, .attempt heard) → heard ≤ w.releases
  /-- Since the listening began there was a release, or the URL is in flight, or a release is about to be signalled. -/
  wait : ∀ url heard, p.vigil? = some (url, .wait heard) →
    heard ≤ w.releases ∧ (heard < w.releases ∨ url ∈ w.inFlight ∨ soon)

namespace Program

variable {α : Type} {p p' : Program α} {w w' : World} {m : Move} {soon soon' : Prop}

/-- Who is about to listen has missed nothing. -/
theorem ListensFirst.alert (h : p.ListensFirst) : p.Alert w soon :=
  ⟨fun _ _ hv => (nomatch h.vigil_eq hv), fun _ _ hv => (nomatch h.vigil_eq hv)⟩

/-- A program that is left alone stays alert while every mark that goes has its release signalled. -/
theorem Alert.keep (h : p.Alert w soon) (hr : w.releases ≤ w'.releases) (hu : ∀ url ∈ w.inFlight, url ∈ w'.inFlight ∨ soon')
    (hs : soon → soon' ∨ w.releases < w'.releases) : p.Alert w' soon' := by
  refine ⟨fun url heard hv => (h.attempt url heard hv).trans hr, fun url heard hv => ?_⟩
  obtain ⟨hle, hwait⟩ := h.wait url heard hv
  refine ⟨hle.trans hr, ?_⟩
  rcases hwait with hlt | hmarked | hsoon
  · exact Or.inl (hlt.trans_le hr)
  · exact Or.inr (hu url hmarked)
  · exact (hs hsoon).elim (fun hsoon => Or.inr (Or.inr hsoon)) fun hlt => Or.inl (hle.trans_lt hlt)

/-- A program comes to its waiting alert: it has listened before it tried, and it tried before it waits. -/
theorem Alert.move (h : p.Alert w' soon) (hp : p.Poised) (hm : Step w p m w' p') : p'.Alert w' soon := by
  refine ⟨fun url heard hv => ?_, fun url heard hv => ?_⟩
  · rcases hm.vigil hp hv with he | he | ⟨_, _, he, _⟩
    · nomatch he
    · exact (Vigil.attempt.inj he).le
    · nomatch he
  · rcases hm.vigil hp hv with he | he | ⟨heard', hv', he, hmarked⟩
    · nomatch he
    · nomatch he
    · cases he
      exact ⟨h.attempt url heard hv', Or.inr (Or.inl hmarked)⟩

end Program

/-! ## Vigilant states -/

/-- Whoever is about to wake those who wait does so with its next move. -/
theorem Duty.waking_after {d : Duty} (h : d.waking = true) (m : Move) :
    (d.after m).waking = true ∨ ∃ a, m = .answered .wake a := by
  cases m with
  | answered r a =>
    cases r with
    | wake => exact Or.inr ⟨a, rfl⟩
    | unmark g => exact Or.inl rfl
    | tryMark url => cases a <;> exact Or.inl h
    | spawn job => cases job <;> exact Or.inl h
    | _ => exact Or.inl h
  | expired | listened | took | yielded | woken => exact Or.inl h

/-- That a task took a mark away and is about to wake those who wait. -/
def State.Waking (x : State) : Prop := ∃ t ∈ x.tasks, t.duty.waking = true

/-- A state in which nobody sleeps on a free service. -/
structure State.Vigilant (x : State) : Prop where
  poised : ∀ t ∈ x.tasks, t.program.Poised
  /-- Whoever is about to try for a guard has not heard of releases that are yet to come. -/
  attempts : ∀ t ∈ x.tasks, ∀ url heard, t.program.vigil? = some (url, .attempt heard) → heard ≤ x.world.releases
  /-- Nor has whoever waits; and there was a release since, or the URL is in flight, or there is going to be a release at once. -/
  waits : ∀ t ∈ x.tasks, ∀ url heard, t.program.vigil? = some (url, .wait heard) →
    heard ≤ x.world.releases ∧ (heard < x.world.releases ∨ url ∈ x.world.inFlight ∨ x.Waking)

section

variable {s : Scheduler} {x y : State} {e : Event}

/-- A step counts releases. -/
theorem State.Step.releases (hs : State.Step s x e y) : x.world.releases ≤ y.world.releases := by
  cases hs with
  | move hp => exact hp.signalled.releases ▸ Move.le_released _ _
  | @finish w before after past t report hr => cases report.tick? <;> exact Nat.le_refl _
  | call | begin | cut | pass => exact Nat.le_refl _

/-- Where a mark goes, its release is to come. -/
theorem State.Step.unmarked (hs : State.Step s x e y) {url : AccessUrl} (hu : url ∈ x.world.inFlight) :
    url ∈ y.world.inFlight ∨ y.Waking := by
  cases hs with
  | @move w w' before after past t m p hp =>
    rcases m.mem_marks hu with hu | ⟨g, a, rfl⟩
    · exact Or.inl (hp.signalled.inFlight ▸ hu)
    refine Or.inr ?_
    refine ⟨t.move (.answered (.unmark g) a) p, List.mem_append_right _ List.mem_cons_self, ?_⟩
    rw [Task.duty_move]
    rfl
  | @finish w before after past t report hr => cases report.tick? <;> exact Or.inl hu
  | call | begin | cut | pass => exact Or.inl hu

/-- Whoever is about to wake those who wait is so still after a step, or did it. -/
theorem State.Step.waking (hs : State.Step s x e y) (hd : ∀ t ∈ x.tasks, t.Dutiful) (hx : x.Waking) :
    y.Waking ∨ x.world.releases < y.world.releases := by
  obtain ⟨t, ht, hw⟩ := hx
  cases hs with
  | call | begin => exact Or.inl ⟨t, List.mem_append_left _ ht, hw⟩
  | pass => exact Or.inl ⟨t, ht, hw⟩
  | @move w w' before after past u m p hp =>
    rcases List.mem_append.1 ht with hb | ht
    · exact Or.inl ⟨t, List.mem_append_left _ hb, hw⟩
    · rcases List.mem_cons.1 ht with rfl | ha
      · rcases Duty.waking_after hw m with hafter | ⟨a, rfl⟩
        · exact Or.inl ⟨t.move m p, List.mem_append_right _ List.mem_cons_self, by rwa [Task.duty_move]⟩
        · exact Or.inr (hp.signalled.releases ▸ Nat.lt_succ_self _)
      · exact Or.inl ⟨t, List.mem_append_right _ (List.mem_cons_of_mem _ ha), hw⟩
  | @finish w before after past u report hr =>
    rcases List.mem_append.1 ht with hb | hc
    · exact Or.inl ⟨t, List.mem_append_left _ hb, hw⟩
    · rcases List.mem_cons.1 hc with rfl | ha
      · nomatch hw.symm.trans ((hd t ht).over hr).2.1
      · exact Or.inl ⟨t, List.mem_append_right _ ha, hw⟩
  | @cut w before after past u hi reason =>
    rcases List.mem_append.1 ht with hb | ht
    · exact Or.inl ⟨t, List.mem_append_left _ hb, hw⟩
    · rcases List.mem_cons.1 ht with rfl | ha
      · exact Or.inl ⟨_, List.mem_append_right _ List.mem_cons_self, hw⟩
      · exact Or.inl ⟨t, List.mem_append_right _ (List.mem_cons_of_mem _ ha), hw⟩

/-- No step lets anybody sleep on a free service. -/
theorem State.Vigilant.step (h : x.Vigilant) (hd : ∀ t ∈ x.tasks, t.Dutiful) (hs : State.Step s x e y) : y.Vigilant := by
  have htasks : ∀ t ∈ y.tasks, t.program.Poised ∧ t.program.Alert y.world y.Waking := by
    refine hs.forall_tasks (P := fun t => t.program.Poised ∧ t.program.Alert y.world y.Waking) ?_ ?_ ?_ ?_
    · intro t ht
      have halert : t.program.Alert x.world x.Waking := ⟨h.attempts t ht, h.waits t ht⟩
      exact ⟨h.poised t ht, halert.keep hs.releases (fun _ hu => hs.unmarked hu) (hs.waking hd)⟩
    · intro id origin
      have hp := (origin.woven s).listensFirst
      exact ⟨hp.poised, hp.alert⟩
    · rintro t ⟨hp, halert⟩ m p hm
      exact ⟨hm.goes.poised hp, halert.move hp hm⟩
    · intro t _ _ reason
      have hp := (woven_unwind (y := s.synchronizer) reason t.permits t.guards).listensFirst
      exact ⟨hp.poised, hp.alert⟩
  exact ⟨fun t ht => (htasks t ht).1, fun t ht => (htasks t ht).2.attempt, fun t ht => (htasks t ht).2.wait⟩

/-- In no state of a run does anybody sleep on a free service, for releases are heard wherever they come. -/
theorem State.Run.vigilant {start : State} {es : List Event} (h : State.Run s start es x) (ht : start.tasks = [])
    (he : start.ended = []) : x.Vigilant := by
  induction h with
  | refl => exact ⟨by simp [ht], by simp [ht], by simp [ht]⟩
  | step h' hs ih =>
    exact ih.step (fun t hm => h'.dutiful ht he t (List.mem_append_left _ hm)) hs

end

end CatalogSync.Engine
