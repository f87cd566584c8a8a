import CatalogSync.Proofs.Engine.Stint
import CatalogSync.Proofs.Engine.Succession
import CatalogSync.Proofs.Engine.Warrant

/-!
# After an unregistration

Once an unregistration has taken the entry of a URL out, the URL has no entry until it is registered again, and nobody hands changes for
it to the catalog but the unregistration itself, which hands over what there is to remove (`State.Run.buries`). For a task that has the
entry for a warrant holds the guard of the URL, so it is not there when another takes the entry out (`State.Accountable`), and without an
entry nobody gets a warrant.
-/

namespace CatalogSync.Engine

variable {url : AccessUrl}

/-! ## Accountable states -/

/-- While a task holds the guard of a URL, no other one does. -/
theorem State.Exclusive.not_holds {x : State} (h : x.Exclusive) {before after : List Task} {t : Task}
    (hx : x.tasks = before ++ t :: after) (ht : t.Holds url) {u : Task} (hu : u ∈ before ∨ u ∈ after) : ¬u.Holds url := by
  have hapart := h.apart
  rw [hx] at hapart
  obtain ⟨_, hafter, hbefore⟩ := List.pairwise_append.1 hapart
  intro hholds
  rcases hu with hu | hu
  · exact hbefore u hu t List.mem_cons_self url hholds ht
  · exact List.rel_of_pairwise_cons hafter hu url ht hholds

/-- A state in which every task has a warrant for what it hands to the catalog for a URL, and an entry that is its warrant is there. -/
structure State.Accountable (url : AccessUrl) (x : State) : Prop where
  kept : x.Kept lawless
  warranted : ∀ t ∈ x.tasks, t.Warranted url
  /-- Whoever has the entry for a warrant holds the guard, and the entry is there. -/
  entry : ∀ t ∈ x.tasks, t.warrant url = .entry → t.Holds url ∧ x.world.registry.get? url ≠ none

section

variable {w w' : World} {t : Task} {m : Move} {p : Program Report}

/-- A warrant for an entry lasts from a warrant for it. -/
theorem Warrant.of_lasting_eq_entry {before : Warrant} (h : before.lasting = .entry) : before = .entry := by
  cases before with
  | entry => rfl
  | none | removal service => nomatch h

/-- A task has the entry for a warrant since it found it there, or it had before and has the same guards since. -/
theorem Move.of_warrant_eq_entry {before : Warrant} (h : m.warrant url before = .entry) :
    (∃ service, m = .answered (.service url) (some service)) ∨
    (before = .entry ∧ (∀ held, m.guards held = held) ∧ ∀ a, m ≠ .answered (.remove url) a) := by
  unfold Move.warrant at h
  split at h
  · rename_i u service
    split at h
    · rename_i hu
      exact Or.inl ⟨service, by rw [hu]⟩
    · nomatch h
  · split at h <;> nomatch h
  · exact Or.inr ⟨Warrant.of_lasting_eq_entry h, fun _ => rfl, nofun⟩
  · exact Or.inr ⟨Warrant.of_lasting_eq_entry h, fun _ => rfl, nofun⟩
  · exact Or.inr ⟨Warrant.of_lasting_eq_entry h, fun _ => rfl, nofun⟩
  · nomatch h

/-- A task has a removal for a warrant only if it has just taken the entry out. -/
theorem Move.of_warrant_eq_removal {before : Warrant} {service : Service} (h : m.warrant url before = .removal service) :
    m = .answered (.remove url) (some service) := by
  unfold Move.warrant at h
  split at h
  · split at h <;> nomatch h
  · split at h
    · rename_i hu
      rw [hu, Warrant.removal.inj h]
    · nomatch h
  · cases before <;> nomatch h
  · cases before <;> nomatch h
  · cases before <;> nomatch h
  · nomatch h

/-- A task that neither takes nor gives back a guard has what it had. -/
theorem Task.Holds.move (h : t.Holds url) (hm : m.guards t.guards = t.guards) (p : Program Report) : (t.move m p).Holds url := by
  obtain ⟨g, hg, hu⟩ := h
  exact ⟨g, by rwa [Task.guards_move, hm], hu⟩

/-- Whoever has the entry for a warrant after a move holds the guard then, and the entry is there. -/
theorem Program.Step.warrant_entry (h : Program.Step w t.program m w' p) (hk : t.Kept lawless w) (hw : w.registry.Keyed)
    (hold : t.warrant url = .entry → t.Holds url ∧ w.registry.get? url ≠ none) (hm : (t.move m p).warrant url = .entry) :
    (t.move m p).Holds url ∧ w'.registry.get? url ≠ none := by
  rw [Task.warrant_move] at hm
  rcases Move.of_warrant_eq_entry hm with ⟨service, rfl⟩ | ⟨hbefore, hguards, hremove⟩
  · have hholds : t.Holds url := hk.holds_of_asks (h.goes.asks rfl) rfl
    refine ⟨hholds.move rfl p, ?_⟩
    cases h.answers with
    | world ha =>
      obtain ⟨hs, rfl⟩ := Prod.mk.inj (Option.some.inj ha)
      rw [hs]
      exact Option.some_ne_none service
  · obtain ⟨hholds, hentry⟩ := hold hbefore
    refine ⟨hholds.move (hguards _) p, ?_⟩
    obtain ⟨service, hs⟩ := Option.ne_none_iff_exists'.1 hentry
    rcases h.entry hw hs hremove with ⟨_, _, _, _, hs'⟩ | ⟨hs', _⟩
    · rw [hs']
      exact Option.some_ne_none _
    · rw [hs']
      exact Option.some_ne_none _

/-- A URL without an entry gets one only by a registration. -/
theorem Program.Step.entry_eq_none (h : Program.Step w t.program m w' p) (hw : w.registry.Keyed) (hn : w.registry.get? url = none)
    (hm : ∀ service, service.url = url → m ≠ .answered (.register service) true) : w'.registry.get? url = none := by
  have hamends := h.amends hw url
  rw [hn] at hamends
  generalize w'.registry.get? url = entry at hamends
  cases hamends with
  | kept | removed => rfl
  | registered hu => exact absurd rfl (hm _ hu)

end

/-! ## What a step preserves -/

namespace State.Accountable

variable {s : Scheduler} {x y : State} {e : Event}

/-- Where nobody is at work everybody can account for their guards. -/
theorem of_quiet (h : x.Quiet) : x.Accountable url :=
  ⟨h.kept fun _ => trivial, by simp [h.tasks], by simp [h.tasks]⟩

/-- No step spoils this. -/
theorem step (h : x.Accountable url) (hs : State.Step s x e y) : y.Accountable url := by
  refine ⟨h.kept.step hs (lawless_allows e), hs.warranted h.warranted, ?_⟩
  have hkept := h.kept
  have hentry := h.entry
  cases hs with
  | call w ts past op =>
    intro t ht hw
    rcases List.mem_append.1 ht with ht | ht
    · exact hentry t ht hw
    · obtain rfl := List.mem_singleton.1 ht
      nomatch hw
  | begin hj =>
    intro t ht hw
    rcases List.mem_append.1 ht with ht | ht
    · exact hentry t ht hw
    · obtain rfl := List.mem_singleton.1 ht
      nomatch hw
  | @move w w' before after past t m p hp =>
    -- the entry is there for the others because they hold its guard, and so nobody takes it out
    have hothers : ∀ u, u ∈ before ∨ u ∈ after → u ∈ before ++ t :: after → u.warrant url = .entry →
        u.Holds url ∧ w'.registry.get? url ≠ none := by
      intro u hu hmem hw
      obtain ⟨⟨g, hg, rfl⟩, hsome⟩ := hentry u hmem hw
      refine ⟨⟨g, hg, rfl⟩, ?_⟩
      have hguards : g ∈ before.flatMap Task.guards ++ after.flatMap Task.guards := by
        rw [← List.flatMap_append]
        exact List.mem_flatMap.2 ⟨u, List.mem_append.2 hu, hg⟩
      have hspares : w.Spares g.url w' :=
        .of_grows (hkept.grows_of_move hp (lawless_allows (.moved t.id m)) g (List.mem_append_left _ hguards))
      obtain ⟨service, hservice⟩ := Option.ne_none_iff_exists'.1 hsome
      rw [hspares.entry service hservice]
      exact Option.some_ne_none service
    intro u hu hw
    have ht : t ∈ before ++ t :: after := List.mem_append_right _ List.mem_cons_self
    rcases List.mem_append.1 hu with hu | hu
    · exact hothers u (Or.inl hu) (List.mem_append_left _ hu) hw
    · rcases List.mem_cons.1 hu with rfl | hu
      · exact hp.warrant_entry (hkept.tasks t ht) hkept.sane.keyed (hentry t ht) hw
      · exact hothers u (Or.inr hu) (List.mem_append_right _ (List.mem_cons_of_mem t hu)) hw
  | @finish w before after past t report hr =>
    intro u hu hw
    have hregistry : ((report.tick?.map (w.finish t.id)).getD w).registry = w.registry := by cases report.tick? <;> rfl
    show u.Holds url ∧ ((report.tick?.map (w.finish t.id)).getD w).registry.get? url ≠ none
    rw [hregistry]
    exact hentry u (Task.mem_insert hu t) hw
  | @cut w before after past t hi reason =>
    intro u hu hw
    rcases List.mem_append.1 hu with hu | hu
    · exact hentry u (List.mem_append_left _ hu) hw
    · rcases List.mem_cons.1 hu with rfl | hu
      · exact hentry t (List.mem_append_right _ List.mem_cons_self) hw
      · exact hentry u (List.mem_append_right _ (List.mem_cons_of_mem t hu)) hw
  | pass w ts past n => exact hentry

/-- Whoever is about to hand changes to the catalog for a URL without an entry has just taken the entry out. -/
theorem removal (h : x.Accountable url) (hn : x.world.registry.get? url = none) {t : Task} (ht : t ∈ x.tasks) {c : ResourceChanges}
    (ha : t.program.Asks (.apply url c)) : ∃ service, t.warrant url = .removal service ∧ c = cleanupOf service := by
  have hcovers : (t.warrant url).Covers c := (h.warranted t ht).covers ha
  cases hw : t.warrant url with
  | none =>
    rw [hw] at hcovers
    exact hcovers.elim
  | entry => exact absurd hn (h.entry t ht hw).2
  | removal service =>
    rw [hw] at hcovers
    exact ⟨service, rfl, hcovers⟩

/-- While a URL has no entry, no change set for it comes before the catalog that was not before it already. -/
theorem mem_of_asks (h : x.Accountable url) (hs : State.Step s x e y) (hx : x.world.registry.get? url = none)
    (hy : y.world.registry.get? url = none) {t : Task} (ht : t ∈ y.tasks) {c : ResourceChanges}
    (ha : t.program.Asks (.apply url c)) : t ∈ x.tasks := by
  have hold : ∀ t ∈ y.tasks, (∃ service, t.warrant url = .removal service) → t.program.Asks (.apply url c) → t ∈ x.tasks := by
    refine hs.forall_tasks (P := fun t => (∃ service, t.warrant url = .removal service) → t.program.Asks (.apply url c) →
      t ∈ x.tasks) (fun t ht _ _ => ht) ?_ ?_ ?_
    · rintro id origin ⟨service, hw⟩ _
      nomatch hw
    · rintro t _ m p hp ⟨service, hw⟩ _
      rw [Task.warrant_move] at hw
      obtain rfl := Move.of_warrant_eq_removal hw
      have hsome : some service = x.world.registry.get? url := hp.entry_eq
      rw [hx] at hsome
      nomatch hsome
    · intro t _ _ reason _ ha
      have hunwind : (unwind reason t.permits t.guards).Woven s.synchronizer := woven_unwind reason t.permits t.guards
      exact ((hunwind.warranted .none).covers ha).elim
  obtain ⟨service, hw, _⟩ := (h.step hs).removal hy ht ha
  exact hold t ht ⟨service, hw⟩ ha

end State.Accountable

/-! ## A service that was unregistered -/

/-- Whether a URL is registered that had no entry. -/
def Event.registers (url : AccessUrl) : Event → Bool
  | .moved _ (.answered (.register service) true) => service.url == url
  | _ => false

/-- The changes for a URL that were before the catalog and are not any more: it applied them or refused them, or a deadline took
effect. -/
def Move.emitted? (url : AccessUrl) : Move → Option ResourceChanges
  | .answered (.apply u c) _ | .expired (.apply u c) => if u = url then some c else none
  | _ => none

/-- The changes for a URL that were before the catalog, and the task that had handed them to it. -/
def Event.emitted? (url : AccessUrl) : Event → Option (Nat × ResourceChanges)
  | .moved id m => (m.emitted? url).map fun c => (id, c)
  | _ => none

/-- What comes after an unregistration: the state that it led to when it took the entry of the URL out, what happened since, and the state
now. -/
structure State.Buried (url : AccessUrl) (id : Nat) (service : Service) (y : State) (es : List Event) (z : State) : Prop where
  absent : z.world.registry.get? url = none
  /-- Changes that are before the catalog were before it at once, and are what the unregistration has to remove. -/
  pending : ∀ t ∈ z.tasks, ∀ c, t.program.Asks (.apply url c) → t ∈ y.tasks ∧ t.id = id ∧ c = cleanupOf service
  /-- Nothing came of the removal so far, or it was before the catalog once and no changes are any more. -/
  once : es.filterMap (Event.emitted? url) = [] ∨
    es.filterMap (Event.emitted? url) = [(id, cleanupOf service)] ∧ ∀ t ∈ z.tasks, ∀ c, ¬t.program.Asks (.apply url c)

/-! ## From the removal on -/

namespace State.Buried

variable {s : Scheduler} {id : Nat} {service : Service} {x y z z' : State} {es : List Event} {e : Event}

/-- The unregistration is the only one that has changes for the URL before the catalog when it has taken the entry out. -/
theorem start (hx : x.Accountable url) (hs : State.Step s x (.moved id (.answered (.remove url) (some service))) y) :
    Buried url id service y [] y := by
  have hy : y.Accountable url := hx.step hs
  have hexclusive : y.Exclusive := State.exclusive_of_kept hy.kept
  generalize he : Event.moved id (.answered (.remove url) (some service)) = e at hs
  cases hs with
  | @move w w' before after past t m p hp =>
    obtain ⟨rfl, rfl⟩ := Event.moved.inj he
    have ht : t ∈ before ++ t :: after := List.mem_append_right _ List.mem_cons_self
    have hholds : t.Holds url := (hx.kept.tasks t ht).holds_of_asks (hp.goes.asks rfl) rfl
    have habsent : w'.registry.get? url = none := by
      cases hp.answers with
      | world ha =>
        rw [World.perform_remove] at ha
        obtain ⟨_, rfl⟩ := Prod.mk.inj (Option.some.inj ha)
        show (w.registry.remove url).2.get? url = none
        rw [Registry.get?_remove, if_pos rfl]
    refine ⟨habsent, fun u hu c ha => ⟨hu, ?_⟩, Or.inl rfl⟩
    obtain ⟨service', hw, hc⟩ := hy.removal habsent hu ha
    have hworks : u.Holds url := hexclusive.working u hu url (Or.inr ⟨c, ha⟩)
    have hnot : ∀ v, v ∈ before ∨ v ∈ after → ¬v.Holds url := fun v hv => hexclusive.not_holds rfl (hholds.move rfl p) hv
    rcases List.mem_append.1 hu with hu | hu
    · exact absurd hworks (hnot u (Or.inl hu))
    · rcases List.mem_cons.1 hu with rfl | hu
      · have hremoval : Warrant.removal service = .removal service' := by
          rw [← hw, Task.warrant_move]
          exact (if_pos rfl).symm
        exact ⟨rfl, by rw [hc, Warrant.removal.inj hremoval]⟩
      · exact absurd hworks (hnot u (Or.inr hu))
  | call | begin | finish | cut | pass => nomatch he

/-- A URL without an entry has none after a step either, unless it is registered in it. -/
theorem absent_step (hz : z.Accountable url) (hs : State.Step s z e z') (he : e.registers url = false)
    (hn : z.world.registry.get? url = none) : z'.world.registry.get? url = none := by
  cases hs with
  | @move w w' before after past t m p hp =>
    refine hp.entry_eq_none hz.kept.sane.keyed hn ?_
    rintro service rfl rfl
    exact absurd he (by simp [Event.registers])
  | @finish w before after past t report hr => cases report.tick? <;> exact hn
  | call | begin | cut | pass => exact hn

/-- Once a change set that was before the catalog is not any more, there is none before it. -/
theorem emitted (h : Buried url id service y es z) (hz : z.Accountable url) (hs : State.Step s z e z') {task : Nat}
    {c : ResourceChanges} (he : e.emitted? url = some (task, c)) :
    es.filterMap (Event.emitted? url) = [] ∧ task = id ∧ c = cleanupOf service ∧
      ∀ t ∈ z'.tasks, ∀ c, ¬t.program.Asks (.apply url c) := by
  have hz' : z'.Accountable url := hz.step hs
  cases hs with
  | @move w w' before after past t m p hp =>
    obtain ⟨c', hm, htask⟩ := Option.map_eq_some_iff.1 he
    obtain ⟨rfl, rfl⟩ := Prod.mk.inj htask
    have ht : t ∈ before ++ t :: after := List.mem_append_right _ List.mem_cons_self
    -- whether the catalog took the change set, or its time was up, there is no warrant for another one
    have hmove : t.program.Asks (.apply url c') ∧ m.warrant url (t.warrant url) = .none := by
      unfold Move.emitted? at hm
      split at hm
      · split at hm
        · rename_i hu
          cases hm
          exact ⟨hu ▸ hp.goes.asks rfl, rfl⟩
        · nomatch hm
      · split at hm
        · rename_i hu
          cases hm
          exact ⟨hu ▸ hp.goes.asks rfl, rfl⟩
        · nomatch hm
      · nomatch hm
    obtain ⟨ha, hwarrant⟩ := hmove
    obtain ⟨_, hid, hc⟩ := h.pending t ht c' ha
    refine ⟨?_, hid, hc, ?_⟩
    · rcases h.once with hnil | ⟨_, hnone⟩
      · exact hnil
      · exact absurd ha (hnone t ht c')
    · -- whoever has changes before the catalog holds the guard, and only one task does
      intro u hu c ha'
      have hholds : t.Holds url := (hz.kept.tasks t ht).holds_of_asks ha rfl
      have hworks : u.Holds url := (hz'.kept.tasks u hu).holds_of_asks ha' rfl
      have hnot : ∀ v, v ∈ before ∨ v ∈ after → ¬v.Holds url := fun v hv =>
        (State.exclusive_of_kept hz.kept).not_holds rfl hholds hv
      rcases List.mem_append.1 hu with hu | hu
      · exact hnot u (Or.inl hu) hworks
      · rcases List.mem_cons.1 hu with rfl | hu
        · have hcovers := (hz'.warranted _ (List.mem_append_right _ List.mem_cons_self)).covers ha'
          rw [Task.warrant_move, hwarrant] at hcovers
          exact hcovers
        · exact hnot u (Or.inr hu) hworks
  | call | begin | finish | cut | pass => nomatch he

/-- A burial goes on with every step that does not register the service again. -/
theorem step (h : Buried url id service y es z) (hz : z.Accountable url) (hs : State.Step s z e z') (he : e.registers url = false) :
    Buried url id service y (es ++ [e]) z' := by
  have habsent : z'.world.registry.get? url = none := absent_step hz hs he h.absent
  have hmem : ∀ t ∈ z'.tasks, ∀ c, t.program.Asks (.apply url c) → t ∈ z.tasks := fun t ht c ha =>
    hz.mem_of_asks hs h.absent habsent ht ha
  refine ⟨habsent, fun t ht c ha => h.pending t (hmem t ht c ha) c ha, ?_⟩
  rw [List.filterMap_append]
  cases hemitted : e.emitted? url with
  | none =>
    have hnil : [e].filterMap (Event.emitted? url) = [] := by simp [hemitted]
    rw [hnil, List.append_nil]
    exact h.once.imp_right fun ⟨honce, hnone⟩ => ⟨honce, fun t ht c ha => hnone t (hmem t ht c ha) c ha⟩
  | some emission =>
    obtain ⟨task, c⟩ := emission
    obtain ⟨hnil, rfl, rfl, hnone⟩ := h.emitted hz hs hemitted
    exact Or.inr ⟨by simp [hnil, hemitted], hnone⟩

end State.Buried

/-! ## Runs -/

/-- Cleaning up adds nothing to the catalog. -/
theorem toAdd_cleanupOf (service : Service) : (cleanupOf service).toAdd = [] := by
  unfold cleanupOf
  cases service.snapshot <;> rfl

/-- When an unregistration has taken the entry of a URL out, and until the URL is registered again, it has no entry, and no changes for it
are before the catalog but those that the unregistration itself hands to it, once: what there is to remove for the entry, and nothing to
add. -/
theorem State.Run.buries {s : Scheduler} {start x y z : State} {es es' : List Event} {id : Nat} {service : Service}
    (h : State.Run s start es x) (hq : start.Quiet)
    (hs : State.Step s x (.moved id (.answered (.remove url) (some service))) y) (hz : State.Run s y es' z)
    (hr : ∀ e ∈ es', e.registers url = false) : State.Buried url id service y es' z ∧ (cleanupOf service).toAdd = [] := by
  have hx : x.Accountable url := h.invariant (.of_quiet hq) fun _ _ _ _ hx hs => hx.step hs
  have hall : z.Accountable url ∧ State.Buried url id service y es' z := by
    induction hz with
    | refl => exact ⟨hx.step hs, .start hx hs⟩
    | step _ hstep ih =>
      obtain ⟨hz, hburied⟩ := ih fun e he => hr e (List.mem_append_left _ he)
      exact ⟨hz.step hstep, hburied.step hz hstep (hr _ (List.mem_append_right _ (List.mem_singleton_self _)))⟩
  exact ⟨hall.2, toAdd_cleanupOf service⟩

/-- Whether a task takes the entry of a URL out, for which there are the given references to remove from the catalog. -/
def Event.takesOut (id : Nat) (url : AccessUrl) (references : List Reference) : Event → Bool
  | .moved n (.answered (.remove u) (some service)) => n = id ∧ u = url ∧ (cleanupOf service).toRemove = references
  | _ => false

/-- A service is unregistered while a tick of it emits. The unregistration waits for the tick, takes the entry out, and has what the tick
brought removed. One more tick is skipped meanwhile, and one after that finds nothing registered. -/
theorem State.Run.buries_after_tick :
    let url : AccessUrl := ⟨"http://host"⟩
    let s : Scheduler := ⟨⟨false, 1000⟩, false, [], 1000⟩
    let start : State := ⟨World.initial (.ofNat 1), [], []⟩
    let sm : Reference := .root .submodel "sm"
    ∃ es x service y es' z, State.Run s start es x ∧ start.Quiet ∧
      State.Step s x (.moved 2 (.answered (.remove url) (some service))) y ∧ State.Run s y es' z ∧
      (∀ e ∈ es', e.registers url = false) ∧ (cleanupOf service).toRemove = [sm] ∧
      es'.filterMap (Event.emitted? url) = [(2, cleanupOf service)] ∧
      State.Buried url 2 service y es' z ∧ (cleanupOf service).toAdd = [] := by
  intro url s start sm
  let before : List Choice := [.call (.register (.fresh url)), .move 0 .go, .finish 0, .call (.synchronize url), .move 0 .go,
    .move 0 .go, .move 0 .go, .move 0 (.fetched (.ok (.ok ⟨[.root .submodel "sm" .null]⟩))), .move 0 .go, .move 0 .go, .move 0 .go,
    .call (.unregister url), .move 1 .go, .move 1 .go, .move 0 .go, .move 0 .go, .move 0 .go, .finish 0, .move 0 .go, .move 0 .go,
    .move 0 .go]
  let after : List Choice := [.call (.synchronize url), .move 1 .go, .finish 1, .move 0 .go, .move 0 .go, .move 0 .go, .finish 0,
    .call (.synchronize url), .move 0 .go, .move 0 .go, .move 0 .go, .move 0 .go, .finish 0]
  obtain ⟨es, x, hrun, hx⟩ := State.exists_run (s := s) (x := start) (b := some true)
    (fun _ x => (x.next? s (.move 0 .go)).bind fun r => (r.2.replay s after).map fun r' => r.1.takesOut 2 url [sm] &&
      (r'.1.filterMap (Event.emitted? url)).length == 1 && r'.1.all fun e => e.registers url == false)
    (by decide +kernel +zetaReduce : (State.replay s start before).map _ = _)
  obtain ⟨⟨e, y⟩, hy, hrest⟩ := Option.bind_eq_some_iff.1 hx
  obtain ⟨⟨es', z⟩, hz, heq⟩ := Option.map_eq_some_iff.1 hrest
  obtain ⟨⟨htaken, hlength⟩, hnone⟩ : (_ ∧ _) ∧ ∀ e ∈ es', e.registers url = false := by
    simpa only [Bool.and_eq_true, beq_iff_eq, List.all_eq_true] using heq
  obtain ⟨service, rfl, hremove⟩ : ∃ service, e = .moved 2 (.answered (.remove url) (some service)) ∧
      (cleanupOf service).toRemove = [sm] := by
    unfold Event.takesOut at htaken
    split at htaken
    · rename_i n u service
      obtain ⟨rfl, rfl, hremove⟩ := of_decide_eq_true htaken
      exact ⟨service, rfl, hremove⟩
    · nomatch htaken
  have hquiet : start.Quiet := State.quiet_initial _
  have hstep := State.step_of_next? hy
  have hrun' := State.run_of_replay hz
  obtain ⟨hburied, hadd⟩ := hrun.buries hquiet hstep hrun' hnone
  have hemitted : es'.filterMap (Event.emitted? url) = [(2, cleanupOf service)] := by
    rcases hburied.once with hnil | ⟨honce, _⟩
    · rw [hnil] at hlength
      nomatch hlength
    · exact honce
  exact ⟨es, x, service, y, es', z, hrun, hquiet, hstep, hrun', hnone, hremove, hemitted, hburied, hadd⟩

end CatalogSync.Engine
