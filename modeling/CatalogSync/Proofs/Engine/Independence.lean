import CatalogSync.Proofs.Engine.Numbers
import CatalogSync.Proofs.Engine.Verdict
import CatalogSync.Proofs.Engine.Vocabulary

/-!
# Ticks of different services

Ticks are asked for one by one or in rounds, each URL is ticked once, and nobody is cut short (`Fixed.Ticks`). Then the ticks are
independent: each comes to the verdict on its own URL, and so does the site that it leaves, in whatever order and with whatever overlap
they are done (`Fixed.Ticks.independent`). For the tick of a URL is the only one who changes the site of the URL (`Followed`).
-/

namespace CatalogSync.Engine

/-! ## Who changes a site -/

/-- The URL whose site a request is to change, if others change which services there are. -/
def Request.alters? : Request → Option AccessUrl
  | .swap url _ _ | .apply url _ => some url
  | _ => none

/-- Who is to change a site has to hold the guard of its URL. -/
theorem Request.guarded_of_alters {r : Request} {url : AccessUrl} (h : r.alters? = some url) : r.guarded? = some url := by
  cases r <;> first | exact h | nomatch h

/-- Whether a move added a service or took one away. -/
def Move.enrols : Move → Bool
  | answered (.register _) isNew => isNew
  | answered (.remove _) old => old.isSome
  | _ => false

variable {w w' : World}

/-- A move that neither adds a service nor takes one away changes no site, unless it is by a request to change it. -/
theorem Program.Step.site {α : Type} {p p' : Program α} {m : Move} (h : Program.Step w p m w' p') (hk : w.registry.Keyed)
    (hm : m.enrols = false) (url : AccessUrl) : World.Same url w w' ∨ ∃ r, m.request? = some r ∧ r.alters? = some url := by
  -- only a move that writes can change a site, and of those only the swap and the application are asked for one
  cases hw : m.writes with
  | false =>
    obtain ⟨hregistry, hcatalog⟩ := h.idle hw
    left
    simp [World.Same, World.site, hregistry, hcatalog]
  | true =>
    cases m with
    | answered r a =>
      have hanswer := h.answers
      cases r with
      | register s =>
        left
        cases hanswer with
        | world ha =>
          obtain ⟨rfl, rfl⟩ := Prod.mk.inj (Option.some.inj ha)
          have hput : (w.registry.put s).2.get? url = w.registry.get? url := by rw [Registry.put_eq_self hm]
          exact congrArg (fun entry => Site.mk entry (w.catalog.entries url)) hput
      | remove u =>
        left
        cases hanswer with
        | world ha =>
          obtain ⟨rfl, rfl⟩ := Prod.mk.inj (Option.some.inj ha)
          have hremove := w.registry.get?_remove_of_isNone (Option.isNone_iff_eq_none.1 (Option.isSome_eq_false_iff.1 hm)) url
          exact congrArg (fun entry => Site.mk entry (w.catalog.entries url)) hremove
      | swap u expected new =>
        by_cases hu : u = url
        · exact Or.inr ⟨_, rfl, congrArg some hu⟩
        · left
          cases hanswer with
          | world ha =>
            have hswap : w.swap u expected new = (a, w') := Option.some.inj ha
            rcases World.swap_cases hswap with ⟨s, hs, _, _, rfl⟩ | ⟨_, _, _, rfl⟩
            · have hne : url ≠ s.url := fun he => hu ((hk _ _ hs).symm.trans he.symm)
              simp [World.Same, World.site, Registry.get?_replace, hne]
            · rfl
      | apply u c =>
        by_cases hu : u = url
        · exact Or.inr ⟨_, rfl, congrArg some hu⟩
        · left
          cases hanswer with
          | applied => simp [World.Same, World.site, World.apply, Catalog.entries_apply_other _ (Ne.symm hu)]
          | refused => rfl
          | world ha => cases ha
      | _ => cases hw
    | _ => cases hw

/-- That a program changes no site, as long as it neither adds a service nor takes one away. -/
abbrev Program.Harmless {α : Type} (p : Program α) : Prop := p.OnlyWhile (fun m => m.enrols = false) fun r => r.alters? = none

/-- Who unregisters a service that is there takes it away, before there is anything to do for the catalog. -/
theorem harmless_unregister (url : AccessUrl) : (unregister url).Harmless := by
  have hcleanUp : (cleanUp url).Harmless := by
    refine ⟨rfl, fun old hold => ?_⟩
    cases old with
    | none => trivial
    | some service => nomatch hold
  have hrelease : ∀ g, (Program.release g).Harmless := fun g => ⟨rfl, fun _ _ => ⟨rfl, fun _ _ => trivial⟩⟩
  exact ⟨rfl, fun g _ => hcleanUp.bind fun r => (hrelease g).bind fun _ => trivial⟩

/-- A round leaves what there is to do at the sites to the ticks that it starts. -/
theorem Scheduler.harmless_runOnce (s : Scheduler) : s.runOnce.Harmless :=
  onlyWhile_runOnce (fun r hr => by cases r <;> first | rfl | nomatch hr) harmless_unregister s

/-- Whether a request is one that a tick makes: for its run, to give its guard back, or about permits. -/
def Request.ofWork : Request → Bool
  | .unmark _ | .wake | .queue | .permit _ | .leave => true
  | r => r.ofTick

/-- What a tick's run asks for is part of its work. -/
theorem Request.ofWork_of_ofTick {r : Request} (h : r.ofTick = true) : r.ofWork = true := by
  cases r <;> first | rfl | nomatch h

/-- A tick with its guard asks for its work only. -/
theorem Synchronizer.ofWork_runTick (y : Synchronizer) (g : Guard) : (y.runTick g).Only fun r => r.ofWork = true := by
  refine (y.only_runTick g).mono ?_
  rintro r (h | rfl | rfl)
  · exact Request.ofWork_of_ofTick h
  · rfl
  · rfl

/-- So does the task of a tick, permits included. -/
theorem Scheduler.ofWork_tick (s : Scheduler) (g : Guard) : (s.work (.tick g)).Only fun r => r.ofWork = true :=
  ⟨rfl, fun _ => ⟨rfl, fun _ => (s.synchronizer.ofWork_runTick g).bind fun _ => ⟨rfl, fun _ => trivial⟩⟩⟩

/-- What follows once a tick that was asked for has its guard is the work of a tick. -/
theorem Synchronizer.ofWork_asked (y : Synchronizer) (g : Guard) : (y.attempt g >>= finish g).Only fun r => r.ofWork = true :=
  ((y.only_attempt g).mono fun _ => Request.ofWork_of_ofTick).bind fun _ => ⟨rfl, fun _ => ⟨rfl, fun _ => trivial⟩⟩

namespace Fixed

/-! ## Tasks under fixed answers -/

/-- That an event is one of a run in which ticks are asked for, one by one or in rounds, answers are fixed, nobody is cut short, and
discovery finds that the services are those that there are. -/
def AllowsEvent (f : Fixed) : Event → Prop
  | .called _ (.synchronize _) | .called _ .round => True
  | .called _ _ | .cut _ _ => False
  | .moved _ m => f.Allows m ∧ m.enrols = false
  | .began _ _ | .ended _ _ | .passed _ => True

end Fixed

/-- Whether an event is one that depends on how answers are fixed, or one that need not be allowed. -/
def Event.pertinent : Event → Bool
  | .called _ _ | .cut _ _ | .moved _ (.expired _) => true
  | .moved _ (.answered (.fetch _ _) _) | .moved _ (.answered (.resolve _) _) | .moved _ (.answered (.apply _ _) _) => true
  | .moved _ (.answered (.register _) _) | .moved _ (.answered (.remove _) _) => true
  | _ => false

/-- All events are allowed if those are that depend on it. -/
theorem Fixed.allowsEvent_of_pertinent {f : Fixed} {es : List Event} (h : ∀ e ∈ es.filter Event.pertinent, f.AllowsEvent e) :
    ∀ e ∈ es, f.AllowsEvent e := by
  intro e he
  cases hp : e.pertinent with
  | true => exact h e (List.mem_filter.2 ⟨he, hp⟩)
  | false =>
    cases e with
    | called | cut => nomatch hp
    | began | ended | passed => trivial
    | moved id m =>
      cases m with
      | answered r a => cases r <;> first | exact ⟨trivial, rfl⟩ | nomatch hp
      | expired => nomatch hp
      | listened | took | yielded | woken => exact ⟨trivial, rfl⟩

/-- The guard that a move takes by marking its URL. -/
def Move.mark? : Move → Option Guard
  | answered (.tryMark _) (some g) => some g
  | _ => none

namespace Task

/-- The URL of the tick that a task does, if it does one: a tick in a task of its own, or one that was asked for and got its guard. -/
def target? (t : Task) : Option AccessUrl :=
  match t.origin with
  | .job (.tick g) => some g.url
  | .operation (.synchronize _) => (t.moves.head?.bind Move.mark?).map Guard.url
  | _ => none

/-- The result of the tick that a task did, as whoever asked for it is told. -/
def result? (t : Task) : Option (AccessUrl × TickResult) :=
  match t.origin, t.program with
  | .job (.tick g), .done (.ticked r) => some (g.url, r)
  | .operation (.synchronize url), .done (.asked (.completed r)) => some (url, r)
  | _, _ => none

/-- A task that goes as answers are fixed, for a tick or a round. -/
structure Plain (f : Fixed) (s : Scheduler) (t : Task) : Prop where
  trace : (t.origin.program s).Trace t.moves t.program
  origin : (∃ url, t.origin = .operation (.synchronize url)) ∨ t.origin = .operation .round ∨ ∃ job, t.origin = .job job
  allowed : ∀ m ∈ t.moves, f.Allows m ∧ m.enrols = false
  /-- The guards that it was given are for the URLs that it asked them for. -/
  marked : ∀ url g, .answered (.tryMark url) (some g) ∈ t.moves → g.url = url

variable {f : Fixed} {s : Scheduler} {t : Task}

/-- A task that goes as answers are fixed stays one after a move that fits them. -/
theorem Plain.move (h : t.Plain f s) {m : Move} {p : Program Report} (hm : Program.Step w t.program m w' p)
    (ha : f.Allows m ∧ m.enrols = false) : (t.move m p).Plain f s := by
  refine ⟨h.trace.concat hm.goes, h.origin, ?_, ?_⟩
  · intro m' hm'
    rcases List.mem_append.1 hm' with hm' | hm'
    · exact h.allowed m' hm'
    · rwa [List.mem_singleton.1 hm']
  · intro url g hm'
    rcases List.mem_append.1 hm' with hm' | hm'
    · exact h.marked url g hm'
    · obtain rfl := List.mem_singleton.1 hm'
      cases hm.answers with
      | world hw =>
        obtain ⟨_, rfl, _⟩ := World.tryMark_eq_some (Option.some.inj hw)
        rfl

/-- A task keeps at most the guards that it has, where it is given no other. -/
theorem guards_foldl_subset {ms : List Move} (h : ∀ m ∈ ms, ∃ r, m.request? = some r ∧ r.ofWork = true) (held : List Guard) :
    ms.foldl Move.guards held ⊆ held := by
  induction ms generalizing held with
  | nil => exact List.Subset.refl _
  | cons m ms ih =>
    obtain ⟨⟨r, hr, hwork⟩, hms⟩ := List.forall_mem_cons.1 h
    refine List.Subset.trans (ih hms _) ?_
    cases m with
    | answered r' a =>
      cases hr
      cases r with
      | unmark g => exact List.erase_subset
      | tryMark | spawn => nomatch hwork
      | _ => exact List.Subset.refl _
    | expired => exact List.Subset.refl _
    | listened | took | yielded | woken => nomatch hr

/-- Who is about to change a site holds the guard of its URL, and so does a tick of it. -/
theorem Plain.target_eq (h : t.Plain f s) {m : Move} {p : Program Report} (hm : t.program.Goes m p) {r : Request}
    (hr : m.request? = some r) {url : AccessUrl} (hurl : r.alters? = some url) (hholds : t.Holds url) : t.target? = some url := by
  have hround : (t.origin.program s).Harmless → t.target? = some url := by
    intro ho
    have hnone := (ho.of_trace h.trace fun m hm => (h.allowed m hm).2).asks (hm.asks hr)
    exact absurd hurl (by simp [hnone])
  have hrunOnce : Program.Harmless (do return Report.rounded (← s.runOnce)) := s.harmless_runOnce.bind fun _ => trivial
  -- a task that has one guard does the tick for which it has it
  have hguard : ∀ {g : Guard}, t.guards ⊆ [g] → g.url = url := by
    intro g hg
    obtain ⟨g', hg', hu⟩ := hholds
    rw [← List.mem_singleton.1 (hg hg'), hu]
  have htrace := h.trace
  rcases h.origin with ⟨u, ho⟩ | ho | ⟨g | _, ho⟩
  · rw [ho, Origin.program, Synchronizer.program_synchronize] at htrace
    generalize hms : t.moves = ms at htrace
    generalize hq : t.program = q at htrace hm
    cases htrace with
    | nil =>
      cases hm
      cases hr
      cases hurl
    | @cons _ p' _ m₀ ms hfirst hrest =>
      cases hfirst with
      | ask a =>
        cases a with
        | none =>
          cases hrest with
          | nil => cases hm
          | cons hm' _ => cases hm'
        | some g =>
          have hguards : t.guards ⊆ [g] := by
            unfold Task.guards
            rw [hms, ho]
            exact guards_foldl_subset ((s.synchronizer.ofWork_asked g).asked (fun _ => Bool.false_ne_true) hrest) [g]
          simp [target?, ho, hms, Move.mark?, hguard hguards]
  · exact hround (by rw [ho]; exact hrunOnce)
  · rw [ho] at htrace
    have hguards : t.guards ⊆ [g] := by
      unfold Task.guards
      rw [ho]
      exact guards_foldl_subset ((s.ofWork_tick g).asked (fun _ => Bool.false_ne_true) htrace) [g]
    simp [target?, ho, hguard hguards]
  · exact hround (by rw [ho]; exact hrunOnce)

end Task

/-- The ticks of a URL among tasks. -/
def ticksOf (url : AccessUrl) (ts : List Task) : List Task := ts.filter fun t => t.target? = some url

/-! ## What became of a site -/

/-- What became of the site of a URL since a world: nothing, if no task does a tick of it, and what the tick made of it, if one does.
Nothing is said where several do. -/
structure Followed (s : Scheduler) (w₀ : World) (url : AccessUrl) (w : World) (ts : List Task) : Prop where
  untouched : ticksOf url ts = [] → World.Same url w₀ w
  worked : ∀ t, ticksOf url ts = [t] → ∃ ds v, (t.origin.program s).Works (World.Same url) w₀ ds v t.program ∧
    ds.map Deed.move = t.moves ∧ World.Same url v w

namespace Followed

variable {s : Scheduler} {w₀ : World} {url : AccessUrl} {ts : List Task} {t : Task}

/-- What became of a site does not depend on the order of the tasks. -/
theorem of_perm {ts' : List Task} (h : Followed s w₀ url w ts) (hp : ts.Perm ts') : Followed s w₀ url w ts' := by
  have hticks : (ticksOf url ts).Perm (ticksOf url ts') := hp.filter _
  refine ⟨fun hn => h.untouched ?_, fun t ht => h.worked t ?_⟩
  · rw [hn] at hticks
    exact hticks.eq_nil
  · rw [ht] at hticks
    exact List.perm_singleton.1 hticks

/-- Nor on what happens at other sites. -/
theorem same (h : Followed s w₀ url w ts) (hw : World.Same url w w') : Followed s w₀ url w' ts := by
  refine ⟨fun hn => hw.trans (h.untouched hn), fun t ht => ?_⟩
  obtain ⟨ds, v, hworks, hmoves, hv⟩ := h.worked t ht
  exact ⟨ds, v, hworks, hmoves, hw.trans hv⟩

/-- A task that does no tick of the URL is not followed. -/
theorem cons_iff (ht : t.target? ≠ some url) : Followed s w₀ url w (t :: ts) ↔ Followed s w₀ url w ts := by
  have hticks : ticksOf url (t :: ts) = ticksOf url ts := List.filter_cons_of_neg (by simpa using ht)
  constructor
  · intro h
    exact ⟨hticks ▸ h.untouched, hticks ▸ h.worked⟩
  · intro h
    exact ⟨hticks ▸ h.untouched, hticks ▸ h.worked⟩

/-- A tick of the URL is followed, if it is the only one. -/
theorem cons (ht : t.target? = some url) (h : ticksOf url ts = [] → ∃ ds v,
    (t.origin.program s).Works (World.Same url) w₀ ds v t.program ∧ ds.map Deed.move = t.moves ∧ World.Same url v w) :
    Followed s w₀ url w (t :: ts) := by
  have hticks : ticksOf url (t :: ts) = t :: ticksOf url ts := List.filter_cons_of_pos (by simpa using ht)
  refine ⟨fun hn => ?_, fun u hu => ?_⟩
  · rw [hticks] at hn
    nomatch hn
  · rw [hticks] at hu
    obtain ⟨rfl, hn⟩ := List.cons.inj hu
    exact h hn

/-- What is followed of a tick of the URL, if it is the only one. -/
theorem of_cons (h : Followed s w₀ url w (t :: ts)) (ht : t.target? = some url) (hn : ticksOf url ts = []) : ∃ ds v,
    (t.origin.program s).Works (World.Same url) w₀ ds v t.program ∧ ds.map Deed.move = t.moves ∧ World.Same url v w := by
  have hticks : ticksOf url (t :: ts) = t :: ticksOf url ts := List.filter_cons_of_pos (by simpa using ht)
  exact h.worked t (by rw [hticks, hn])

/-- A new task has done nothing. -/
theorem start (h : Followed s w₀ url w ts) (id : Nat) (origin : Origin) : Followed s w₀ url w (.start s id origin :: ts) := by
  by_cases ht : (Task.start s id origin).target? = some url
  · exact cons ht fun hn => ⟨[], w₀, .nil _ _, rfl, h.untouched hn⟩
  · exact (cons_iff ht).2 h

/-- A task stays with the tick that it does. -/
theorem target_move_eq (h : t.target? = some url) (m : Move) (p : Program Report) : (t.move m p).target? = some url := by
  have hhead : ∀ {m₀ : Move}, t.moves.head? = some m₀ → (t.move m p).moves.head? = some m₀ := by
    intro m₀ hm
    rw [Task.move, List.head?_append, hm]
    rfl
  unfold Task.target? at h ⊢
  show (match t.origin with
    | .job (.tick g) => some g.url
    | .operation (.synchronize _) => ((t.move m p).moves.head?.bind Move.mark?).map Guard.url
    | _ => none) = some url
  split at h
  · exact h
  · cases hm : t.moves.head? with
    | none =>
      rw [hm] at h
      cases h
    | some m₀ =>
      rw [hhead hm, ← hm]
      exact h
  · cases h

/-- A task takes up a tick with its first move. -/
theorem target_move {f : Fixed} (h : t.Plain f s) {m : Move} {p : Program Report} (ht : t.target? ≠ (t.move m p).target?) :
    t.moves = [] ∧ t.program = t.origin.program s := by
  cases hms : t.moves with
  | nil =>
    have htrace := h.trace
    rw [hms] at htrace
    generalize t.program = q at htrace
    cases htrace with
    | nil => exact ⟨rfl, rfl⟩
  | cons m₀ ms =>
    refine absurd ?_ ht
    simp [Task.target?, Task.move, hms]

/-- A move of one task leads a site to what the fixed answers make of it. -/
theorem move {f : Fixed} (h : Followed s w₀ url w (t :: ts)) (hp : t.Plain f s) (hk : t.Kept lawless w) (hr : w.registry.Keyed)
    {m : Move} {p : Program Report} (hm : Program.Step w t.program m w' p) (he : m.enrols = false) :
    Followed s w₀ url w' (t.move m p :: ts) := by
  let d : Deed := ⟨w, m, w'⟩
  have hmoves : ∀ {ds : List Deed}, ds.map Deed.move = t.moves → (ds ++ [d]).map Deed.move = (t.move m p).moves := by
    intro ds hds
    rw [List.map_append, hds]
    rfl
  by_cases ht : (t.move m p).target? = some url
  · refine cons ht fun hn => ?_
    by_cases ht' : t.target? = some url
    · obtain ⟨ds, v, hworks, hds, hv⟩ := h.of_cons ht' hn
      exact ⟨_, w', hworks.concat hv hm, hmoves hds, rfl⟩
    · -- this is the first move of the task, and nobody has done anything to the site yet
      obtain ⟨hfirst, hprogram⟩ := target_move hp (m := m) (p := p) (fun he => ht' (he.trans ht))
      have huntouched := ((cons_iff ht').1 h).untouched hn
      rw [hprogram] at hm
      have hworks : (t.origin.program s).Works (World.Same url) w₀ [d] w' p := .cons huntouched hm (.nil _ _)
      have hnone : ([] : List Deed).map Deed.move = t.moves := hfirst.symm
      exact ⟨[d], w', hworks, hmoves hnone, rfl⟩
  · by_cases ht' : t.target? = some url
    · exact absurd (target_move_eq ht' m p) ht
    · refine (cons_iff ht).2 (Followed.same ((cons_iff ht').1 h) ?_)
      rcases hm.site hr he url with hsame | ⟨r, hreq, hurl⟩
      · exact hsame
      · have hholds := hk.holds_of_asks (hm.goes.asks hreq) (Request.guarded_of_alters hurl)
        exact absurd (hp.target_eq hm.goes hreq hurl hholds) ht'

end Followed

/-! ## What a step preserves -/

/-- The tasks of a run of ticks go as answers are fixed. -/
theorem State.Step.plain {f : Fixed} {s : Scheduler} {x y : State} {e : Event} (hs : State.Step s x e y) (he : f.AllowsEvent e)
    (h : ∀ t ∈ x.tasks ++ x.ended, t.Plain f s) : ∀ t ∈ y.tasks ++ y.ended, t.Plain f s := by
  have hstart : ∀ id origin, ((∃ url, origin = .operation (.synchronize url)) ∨ origin = .operation .round ∨ ∃ job, origin = .job job) →
      (Task.start s id origin).Plain f s := fun id origin ho => ⟨.nil _, ho, by simp [Task.start], by simp [Task.start]⟩
  refine hs.forall_all h ?_ ?_ ?_ ?_
  · rintro id op rfl
    cases op with
    | synchronize url => exact hstart _ _ (Or.inl ⟨url, rfl⟩)
    | round => exact hstart _ _ (Or.inr (Or.inl rfl))
    | register | unregister | discover | schedule => exact he.elim
  · exact fun id job => hstart _ _ (Or.inr (Or.inr ⟨job, rfl⟩))
  · rintro t _ ht m p rfl hm
    exact ht.move hm he
  · rintro t _ ht reason rfl
    exact he.elim

/-- No step makes something of a site that its tick did not. -/
theorem State.Step.followed {f : Fixed} {s : Scheduler} {x y : State} {e : Event} (hs : State.Step s x e y) (he : f.AllowsEvent e)
    (hk : x.Kept lawless) (hp : ∀ t ∈ x.tasks ++ x.ended, t.Plain f s) {w₀ : World} {url : AccessUrl}
    (h : Followed s w₀ url x.world (x.tasks ++ x.ended)) : Followed s w₀ url y.world (y.tasks ++ y.ended) := by
  have hadd : ∀ (ts past : List Task) (u : Task), (u :: (ts ++ past)).Perm (ts ++ [u] ++ past) := by
    intro ts past u
    rw [List.append_assoc]
    exact List.perm_middle.symm
  have hfirst : ∀ (before after past : List Task) (u : Task),
      (before ++ u :: after ++ past).Perm (u :: (before ++ after ++ past)) := by
    intro before after past u
    rw [List.append_assoc, List.append_assoc]
    exact List.perm_middle
  cases hs with
  | call w ts past op =>
    refine Followed.of_perm ?_ (hadd ts past _)
    exact (h.start _ _).same rfl
  | @begin w ts past before after id job hj =>
    refine Followed.of_perm ?_ (hadd ts past _)
    exact (h.start _ _).same rfl
  | @move w w' before after past t m p hm =>
    have ht : t ∈ before ++ t :: after := List.mem_append_right _ List.mem_cons_self
    have hmoved := (h.of_perm (hfirst before after past t)).move (hp t (List.mem_append_left _ ht)) (hk.tasks t ht) hk.sane.keyed hm he.2
    exact hmoved.of_perm (hfirst before after past _).symm
  | @finish w before after past t report hr =>
    refine (h.of_perm (Task.perm_ended before after past t).symm).same ?_
    cases report.tick? <;> rfl
  | cut hi reason => exact he.elim
  | pass w ts past n => exact h.same rfl

/-- In a run of ticks from a quiet state, what became of each site is what its tick made of it. -/
theorem State.Run.followed {f : Fixed} {s : Scheduler} {start x : State} {es : List Event} (h : State.Run s start es x)
    (hq : start.Quiet) (he : ∀ e ∈ es, f.AllowsEvent e) :
    (∀ t ∈ x.tasks ++ x.ended, t.Plain f s) ∧ ∀ url, Followed s start.world url x.world (x.tasks ++ x.ended) := by
  have hnone : start.tasks ++ start.ended = [] := by rw [hq.tasks, hq.ended, List.append_nil]
  have hinvariant := h.invariant (P := fun x => x.Kept lawless ∧ (∀ t ∈ x.tasks ++ x.ended, t.Plain f s) ∧
    ∀ url, Followed s start.world url x.world (x.tasks ++ x.ended)) (by
      rw [hnone]
      exact ⟨hq.kept fun _ => trivial, nofun, fun url => ⟨fun _ => rfl, fun _ ht => nomatch ht⟩⟩) (by
      rintro e hm x y ⟨hk, hp, hf⟩ hs
      exact ⟨hk.step hs (lawless_allows e), hs.plain (he e hm) hp, fun url => hs.followed (he e hm) hk hp (hf url)⟩)
  exact hinvariant.2

/-! ## What a task ends with -/

/-- A tick in a task of its own, while nobody else changes the site, comes to what the site shows. -/
theorem Program.Works.work_verdict {f : Fixed} {s : Scheduler} {g : Guard} {ds : List Deed} {report : Report}
    (h : (s.work (.tick g)).Works (World.Same g.url) w ds w' (.done report))
    (hk : ∀ s, (w.site g.url).entry = some s → s.url = g.url) (hm : ∀ d ∈ ds, f.Allows d.move) :
    report = .ticked (f.verdict s.synchronizer.onlySubmodels g.url (w.site g.url).view).1 ∧
      (w'.site g.url).view = (f.verdict s.synchronizer.onlySubmodels g.url (w.site g.url).view).2 := by
  obtain ⟨v₁, ticket, v₂, ds', rfl, hv₁, ha₁, hqueued⟩ := Works.of_ask (r := .queue) h
  obtain ⟨v₃, _, v₄, ds'', rfl, hv₃, ha₃, hgranted⟩ := Works.of_ask (r := .permit ticket) hqueued
  have hv₄ : v₄.site g.url = w.site g.url :=
    (congrFun (ha₃.site rfl) _).trans (hv₃.trans ((congrFun (ha₁.site rfl) _).trans hv₁))
  obtain ⟨ds₁, ds₂, v₅, r, rfl, hrun, hleave⟩ := Works.of_bind (p := s.synchronizer.runTick g) hgranted
  obtain ⟨rfl, hview⟩ := hrun.runTick_verdict (fun s hs => hk s (hv₄ ▸ hs)) fun d hd =>
    hm d (List.mem_cons_of_mem _ (List.mem_cons_of_mem _ (List.mem_append_left _ hd)))
  obtain ⟨v₆, _, v₇, ds₃, rfl, hv₆, ha₆, hdone⟩ := Works.of_ask (r := .leave) hleave
  obtain ⟨_, rfl, rfl⟩ := hdone.of_done
  rw [hv₄] at hview ⊢
  have hsame := (congrFun (ha₆.site rfl) g.url).trans hv₆
  exact ⟨rfl, (congrArg Site.view hsame).trans hview⟩

/-- So does a tick that was asked for and got its guard. -/
theorem Program.Works.asked_verdict {f : Fixed} {y : Synchronizer} {g : Guard} {ds : List Deed} {report : Report}
    (h : (y.attempt g >>= Synchronizer.finish g).Works (World.Same g.url) w ds w' (.done report))
    (hk : ∀ s, (w.site g.url).entry = some s → s.url = g.url) (hm : ∀ d ∈ ds, f.Allows d.move) :
    report = .asked (.completed (f.verdict y.onlySubmodels g.url (w.site g.url).view).1) ∧
      (w'.site g.url).view = (f.verdict y.onlySubmodels g.url (w.site g.url).view).2 := by
  obtain ⟨ds₁, ds₂, v, r, rfl, hattempt, hfinish⟩ := Works.of_bind h
  obtain ⟨rfl, hview⟩ := hattempt.attempt_verdict hk fun d hd => hm d (List.mem_append_left _ hd)
  obtain ⟨rfl, hsame⟩ := hfinish.of_release fun _ _ hr => hr
  exact ⟨rfl, (congrArg Site.view hsame).trans hview⟩

open Program in
/-- A tick that nobody interfered with came to the verdict on its URL, and so did its site. -/
theorem Task.Plain.verdict {f : Fixed} {s : Scheduler} {t : Task} (h : t.Plain f s) {url : AccessUrl} (ht : t.target? = some url)
    {w₀ v : World} {ds : List Deed} {report : Report} (hw : (t.origin.program s).Works (World.Same url) w₀ ds v (.done report))
    (hds : ds.map Deed.move = t.moves) (hr : t.program = .done report) (hk : w₀.registry.Keyed) :
    t.result? = some (url, (f.verdict s.synchronizer.onlySubmodels url (w₀.site url).view).1) ∧
      (v.site url).view = (f.verdict s.synchronizer.onlySubmodels url (w₀.site url).view).2 := by
  have hallowed : ∀ d ∈ ds, f.Allows d.move := fun d hd => (h.allowed _ (hds ▸ List.mem_map_of_mem hd)).1
  unfold Task.target? at ht
  rcases h.origin with ⟨u, ho⟩ | ho | ⟨g | _, ho⟩
  · rw [ho, Origin.program, Synchronizer.program_synchronize] at hw
    obtain ⟨v₁, a, v₂, ds', rfl, hv₁, ha, hrest⟩ := Works.of_ask hw
    have hv₂ : v₂.site url = w₀.site url := (congrFun (ha.site rfl) url).trans hv₁
    simp only [ho, ← hds, List.map_cons, List.head?_cons, Option.bind_some] at ht
    cases a with
    | none => cases ht
    | some g =>
      obtain rfl : g.url = url := Option.some.inj ht
      have hu : g.url = u := h.marked u g (hds ▸ List.mem_cons_self)
      have hkeyed : ∀ s, (v₂.site g.url).entry = some s → s.url = g.url := by
        rw [hv₂]
        exact hk g.url
      obtain ⟨rfl, hview⟩ := hrest.asked_verdict hkeyed fun d hd => hallowed d (List.mem_cons_of_mem _ hd)
      rw [hv₂] at hview hr
      refine ⟨?_, hview⟩
      simp [Task.result?, ho, hr, hu]
  · rw [ho] at ht
    cases ht
  · rw [ho] at ht hw
    obtain rfl : g.url = url := Option.some.inj ht
    obtain ⟨rfl, hview⟩ := hw.work_verdict (hk g.url) hallowed
    exact ⟨by simp [Task.result?, ho, hr], hview⟩
  · rw [ho] at ht
    cases ht

/-- A task that did no tick has no result of one. -/
theorem Task.Plain.result_eq_none {f : Fixed} {s : Scheduler} {t : Task} (h : t.Plain f s) (ht : t.target? = none) :
    t.result? = none := by
  unfold Task.result?
  split
  · rename_i g r ho hr
    rw [Task.target?, ho] at ht
    cases ht
  · rename_i url r ho hr
    have htrace := h.trace
    rw [ho, hr, Origin.program, Synchronizer.program_synchronize] at htrace
    obtain ⟨a, ms, hms, hrest⟩ := htrace.of_ask
    cases a with
    | none => cases hrest.of_done.2
    | some g =>
      simp only [Task.target?, ho, hms, List.head?_cons, Option.bind_some] at ht
      cases ht
  · rfl

/-! ## Two runs -/

/-- The results of the ticks that are over. -/
def State.results (x : State) : List (AccessUrl × TickResult) := x.ended.filterMap Task.result?

/-- A run in which each of some URLs is ticked once, whether the ticks were asked for one by one or in rounds, and in whatever order
and with whatever overlap they are done. Answers are fixed, the services stay those that they are, and everything that was begun is
over. -/
structure Fixed.Ticks (f : Fixed) (s : Scheduler) (start : State) (urls : List AccessUrl) (x : State) : Prop where
  run : ∃ es, State.Run s start es x ∧ ∀ e ∈ es, f.AllowsEvent e
  quiet : start.Quiet
  untold : start.world.finished = []
  complete : x.tasks = []
  once : (x.ended.filterMap Task.target?).Perm urls

namespace Fixed.Ticks

variable {f : Fixed} {s : Scheduler} {start x : State} {urls : List AccessUrl}

/-- The tick of a URL comes to the verdict on it, and so does its site. -/
theorem verdict (h : f.Ticks s start urls x) (hu : urls.Nodup) {t : Task} (ht : t ∈ x.ended) {url : AccessUrl}
    (htarget : t.target? = some url) :
    t.result? = some (url, (f.verdict s.synchronizer.onlySubmodels url (start.world.site url).view).1) ∧
      (x.world.site url).view = (f.verdict s.synchronizer.onlySubmodels url (start.world.site url).view).2 := by
  obtain ⟨es, hrun, he⟩ := h.run
  obtain ⟨hplain, hfollowed⟩ := hrun.followed h.quiet he
  rw [h.complete, List.nil_append] at hplain hfollowed
  have honly : ticksOf url x.ended = [t] := by
    have hmem : t ∈ ticksOf url x.ended := List.mem_filter.2 ⟨ht, by simpa using htarget⟩
    have hcount : (ticksOf url x.ended).length ≤ 1 := by
      have hnodup : (x.ended.filterMap Task.target?).Nodup := h.once.nodup_iff.2 hu
      have hone := List.nodup_iff_count_le_one.1 hnodup url
      rw [List.count_filterMap] at hone
      rw [ticksOf, ← List.countP_eq_length_filter]
      exact (List.countP_congr fun t _ => by simp).trans_le hone
    obtain ⟨u, hone⟩ := List.length_eq_one_iff.1 (Nat.le_antisymm hcount (List.length_pos_of_mem hmem))
    rw [hone] at hmem ⊢
    rw [List.mem_singleton.1 hmem]
  obtain ⟨ds, v, hworks, hds, hv⟩ := (hfollowed url).worked t honly
  obtain ⟨_, report, hr⟩ := (hrun.recorded h.quiet.tasks h.quiet.ended).ended t ht
  obtain ⟨hresult, hview⟩ := (hplain t ht).verdict htarget (hr ▸ hworks) hds hr h.quiet.keyed
  exact ⟨hresult, (congrArg Site.view hv).trans hview⟩

/-- A tick that is over came to the verdict on its URL, and whoever did none has no result. -/
theorem result_eq (h : f.Ticks s start urls x) (hu : urls.Nodup) : ∀ t ∈ x.ended, t.result? = t.target?.map fun url =>
    (url, (f.verdict s.synchronizer.onlySubmodels url (start.world.site url).view).1) := by
  intro t ht
  cases htarget : t.target? with
  | none =>
    obtain ⟨es, hrun, he⟩ := h.run
    have hplain := (hrun.followed h.quiet he).1 t (List.mem_append_right _ ht)
    exact hplain.result_eq_none htarget
  | some url => exact (h.verdict hu ht htarget).1

/-- There is one result for each URL that was asked for, the one its answers lead to. -/
theorem results_perm (h : f.Ticks s start urls x) (hu : urls.Nodup) : x.results.Perm (urls.map fun url =>
    (url, (f.verdict s.synchronizer.onlySubmodels url (start.world.site url).view).1)) := by
  have hresults : x.results = (x.ended.filterMap Task.target?).map fun url =>
      (url, (f.verdict s.synchronizer.onlySubmodels url (start.world.site url).view).1) := by
    rw [State.results, List.filterMap_congr (h.result_eq hu), List.map_filterMap]
  rw [hresults]
  exact h.once.map _

/-- The site of a URL that is ticked shows what the verdict on it says, and every other site is as it was. -/
theorem view_eq (h : f.Ticks s start urls x) (hu : urls.Nodup) (url : AccessUrl) : (x.world.site url).view =
    if url ∈ urls then (f.verdict s.synchronizer.onlySubmodels url (start.world.site url).view).2
    else (start.world.site url).view := by
  split
  · rename_i hmem
    obtain ⟨t, ht, htarget⟩ := List.mem_filterMap.1 (h.once.symm.subset hmem)
    exact (h.verdict hu ht htarget).2
  · rename_i hmem
    obtain ⟨es, hrun, he⟩ := h.run
    have hfollowed := (hrun.followed h.quiet he).2 url
    rw [h.complete, List.nil_append] at hfollowed
    refine congrArg Site.view (hfollowed.untouched (List.filter_eq_nil_iff.2 fun t ht htarget => hmem ?_))
    exact h.once.subset (List.mem_filterMap.2 ⟨t, ht, by simpa using htarget⟩)

/-- What a round says of a URL is the result of the URL's tick. -/
theorem mem_results (h : f.Ticks s start urls x) (hu : urls.Nodup) {t : Task} (ht : t ∈ x.ended)
    {os : List (AccessUrl × TickOutcome)} (hr : t.program = .done (.rounded os)) {url : AccessUrl} {r : TickResult}
    (hm : (url, .completed r) ∈ os) : (url, r) ∈ x.results := by
  obtain ⟨es, hrun, he⟩ := h.run
  have hplain := (hrun.followed h.quiet he).1 t (List.mem_append_right _ ht)
  have hnumbered := hrun.numbered h.quiet.tasks h.quiet.ended h.quiet.spawned
  have hjoined := hrun.joined h.quiet.tasks h.quiet.ended h.untold
  have htrace := hplain.trace
  rw [hr] at htrace
  obtain ⟨round, hms, rfl, _⟩ := htrace.runOnce_of_rounded.of_runOnce
  obtain ⟨errand, herrand, hpair⟩ := List.mem_map.1 hm
  cases errand with
  | skipped => cases (Prod.mk.inj hpair).2
  | ticked url' g n told =>
    obtain ⟨rfl, houtcome⟩ : url' = url ∧ (Errand.ticked url' g n told).outcome = .completed r := Prod.mk.inj hpair
    have hmark : Move.answered (.tryMark url') (some g) ∈ t.moves := hms ▸ round.starts_mem herrand (.head _)
    have hspawn : Move.answered (.spawn (.tick g)) n ∈ t.moves := hms ▸ round.starts_mem herrand (.tail _ (.head _))
    have hjoin : Move.answered (.join n) told ∈ t.moves := hms ▸ round.joins_mem herrand (.head _)
    have hurl : g.url = url' := hplain.marked url' g hmark
    -- the task that was started under the number is that of the tick
    obtain ⟨u, hu', rfl, report, hdone, hreport⟩ := hjoined.past t ht n told hjoin
    have horigin : u.origin = .job (.tick g) := hnumbered.origin_eq (List.mem_append_right _ hu')
      (hnumbered.spawned t (List.mem_append_right _ ht) _ _ hspawn)
    have hresult := h.result_eq hu u hu'
    rw [Task.target?, horigin] at hresult
    refine List.mem_filterMap.2 ⟨u, hu', ?_⟩
    rw [Task.result?, horigin, hdone] at hresult ⊢
    cases report with
    | ticked r' =>
      obtain rfl : .ok r' = told := Option.some.inj hreport
      obtain rfl : r' = r := TickOutcome.completed.inj houtcome
      rw [← hurl]
    | _ => nomatch hresult

end Fixed.Ticks

/-- Ticks of different URLs are independent. In any two runs in which the same URLs are ticked once each, with the same answers and from
states in which all sites show the same, each tick has the same result, whatever the order, the overlap and the permits; a round says
just that of each URL that it had ticked; and all sites show the same in the end. -/
theorem Fixed.Ticks.independent {f : Fixed} {s₁ s₂ : Scheduler} {start₁ start₂ x₁ x₂ : State} {urls : List AccessUrl}
    (h₁ : f.Ticks s₁ start₁ urls x₁) (h₂ : f.Ticks s₂ start₂ urls x₂) (hu : urls.Nodup)
    (hs : s₁.synchronizer.onlySubmodels = s₂.synchronizer.onlySubmodels)
    (hv : ∀ url, (start₁.world.site url).view = (start₂.world.site url).view) :
    x₁.results.Perm x₂.results ∧ (x₁.results.map Prod.fst).Perm urls ∧
    (∀ x ∈ [x₁, x₂], ∀ t ∈ x.ended, ∀ os, t.program = .done (.rounded os) → ∀ url r, (url, .completed r) ∈ os →
      (url, r) ∈ x₁.results) ∧
    ∀ url, (x₁.world.site url).view = (x₂.world.site url).view := by
  have hresults : x₁.results.Perm x₂.results := by
    refine (h₁.results_perm hu).trans (List.Perm.trans ?_ (h₂.results_perm hu).symm)
    rw [hs]
    simp only [hv]
    exact .refl _
  refine ⟨hresults, ?_, ?_, fun url => ?_⟩
  · have hurls := (h₁.results_perm hu).map Prod.fst
    rw [List.map_map] at hurls
    simpa [Function.comp_def] using hurls
  · intro x hx t ht os hr url r hm
    simp only [List.mem_cons, List.not_mem_nil, or_false] at hx
    rcases hx with rfl | rfl
    · exact h₁.mem_results hu ht hr hm
    · exact hresults.symm.subset (h₂.mem_results hu ht hr hm)
  · rw [h₁.view_eq hu, h₂.view_eq hu, hs, hv]

/-- Two services are ticked one after the other, or in a round in which both ticks run at the same time. The graph of one of them has
a submodel, and that of the other is empty. -/
theorem Fixed.Ticks.independent_round :
    let a : AccessUrl := ⟨"http://a"⟩
    let b : AccessUrl := ⟨"http://b"⟩
    let graph : Graph := ⟨[.root .submodel "sm" .null]⟩
    let f : Fixed := ⟨fun url _ => .ok (if url = a then graph else ⟨[]⟩), fun _ => none⟩
    let s : Scheduler := ⟨⟨false, 1000⟩, false, [], 1000⟩
    let start (n : Nat) : State := ⟨{ World.initial (.ofNat n) with registry := ⟨[(a, .fresh a), (b, .fresh b)]⟩ }, [], []⟩
    ∃ x₁ x₂, f.Ticks s (start 1) [a, b] x₁ ∧ f.Ticks s (start 2) [a, b] x₂ ∧ [a, b].Nodup ∧
      (∀ url, ((start 1).world.site url).view = ((start 2).world.site url).view) ∧
      x₁.ended.map Task.id = [0, 1] ∧ x₂.ended.map Task.id = [2, 1, 0] ∧ x₁.results.Perm x₂.results ∧
      ∀ url, (x₁.world.site url).view = (x₂.world.site url).view := by
  intro a b graph f s start
  let go (n i : Nat) : List Choice := List.replicate n (.move i .go)
  let given (i : Nat) (g : Graph) : Choice := .move i (.fetched (.ok (.ok g)))
  let c : ResourceChanges := ⟨[⟨.root .submodel "sm", .null⟩], []⟩
  let oneByOne : List Choice := .call (.synchronize b) :: go 3 0 ++ given 0 ⟨[]⟩ :: go 5 0 ++ [.finish 0, .call (.synchronize a)] ++
    go 3 0 ++ given 0 graph :: go 6 0 ++ [.finish 0]
  let inRound : List Choice := .call .round :: go 5 0 ++ [.begin 1, .begin 0] ++ go 4 1 ++ go 4 2 ++
    [given 2 graph, given 1 ⟨[]⟩] ++ go 3 2 ++ go 6 1 ++ .finish 1 :: go 4 1 ++ [.finish 1] ++ go 2 0 ++ [.finish 0]
  obtain ⟨es₁, x₁, hrun₁, hx₁⟩ := State.exists_run (s := s) (x := start 1)
    (b := ([.called 0 (.synchronize b), .moved 0 (.answered (.fetch b []) (.ok (.ok ⟨[]⟩))), .called 1 (.synchronize a),
      .moved 1 (.answered (.fetch a []) (.ok (.ok graph))), .moved 1 (.answered (.apply a c) (.ok ()))], true, [b, a], [0, 1]))
    (fun es x => (es.filter Event.pertinent, x.tasks.isEmpty, x.ended.filterMap Task.target?, x.ended.map Task.id))
    (by cbv : (State.replay s (start 1) oneByOne).map _ = _)
  obtain ⟨es₂, x₂, hrun₂, hx₂⟩ := State.exists_run (s := s) (x := start 2)
    (b := ([.called 0 .round, .moved 1 (.answered (.fetch a []) (.ok (.ok graph))), .moved 2 (.answered (.fetch b []) (.ok (.ok ⟨[]⟩))),
      .moved 1 (.answered (.apply a c) (.ok ()))], true, [b, a], [2, 1, 0]))
    (fun es x => (es.filter Event.pertinent, x.tasks.isEmpty, x.ended.filterMap Task.target?, x.ended.map Task.id))
    (by cbv : (State.replay s (start 2) inRound).map _ = _)
  obtain ⟨hevents₁, hcomplete₁, honce₁, hids₁⟩ : _ ∧ _ ∧ _ ∧ _ := by simpa only [Prod.mk.injEq] using hx₁
  obtain ⟨hevents₂, hcomplete₂, honce₂, hids₂⟩ : _ ∧ _ ∧ _ ∧ _ := by simpa only [Prod.mk.injEq] using hx₂
  have hquiet : ∀ n, (start n).Quiet := fun n => ⟨rfl, rfl, rfl, rfl, rfl, (Registry.keyed_empty.put (.fresh a)).put (.fresh b)⟩
  have hviews : ∀ url, ((start 1).world.site url).view = ((start 2).world.site url).view := fun _ => rfl
  have hswap : [b, a].Perm [a, b] := .swap a b []
  have hallowed₁ : ∀ e ∈ es₁, f.AllowsEvent e := by
    refine Fixed.allowsEvent_of_pertinent ?_
    rw [hevents₁]
    simp only [List.forall_mem_cons]
    exact ⟨trivial, ⟨rfl, rfl⟩, trivial, ⟨rfl, rfl⟩, ⟨rfl, rfl⟩, List.forall_mem_nil _⟩
  have hallowed₂ : ∀ e ∈ es₂, f.AllowsEvent e := by
    refine Fixed.allowsEvent_of_pertinent ?_
    rw [hevents₂]
    simp only [List.forall_mem_cons]
    exact ⟨trivial, ⟨rfl, rfl⟩, ⟨rfl, rfl⟩, ⟨rfl, rfl⟩, List.forall_mem_nil _⟩
  have hticks₁ : f.Ticks s (start 1) [a, b] x₁ :=
    ⟨⟨es₁, hrun₁, hallowed₁⟩, hquiet 1, rfl, List.isEmpty_iff.1 hcomplete₁, honce₁ ▸ hswap⟩
  have hticks₂ : f.Ticks s (start 2) [a, b] x₂ :=
    ⟨⟨es₂, hrun₂, hallowed₂⟩, hquiet 2, rfl, List.isEmpty_iff.1 hcomplete₂, honce₂ ▸ hswap⟩
  have hnodup : [a, b].Nodup := by decide
  obtain ⟨hresults, _, _, hsites⟩ := hticks₁.independent hticks₂ hnodup rfl hviews
  exact ⟨x₁, x₂, hticks₁, hticks₂, hnodup, hviews, hids₁, hids₂, hresults, hsites⟩

end CatalogSync.Engine
