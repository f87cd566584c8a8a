import CatalogSync.Proofs.Engine.Abandonment
import CatalogSync.Proofs.Engine.Aftermath
import CatalogSync.Proofs.Engine.Supply

/-!
# The first tick of a registration

What is registered under a URL without an entry stays the entry, as it is, until a tick stores a graph there or the entry is taken out.
So the first tick that stores one compares it with the snapshot that was registered, and with nothing if there was none
(`State.Run.bootstraps`). A copy of an entry brings its snapshot along, whatever became of the catalog since
(`State.Run.bootstraps_not_copies`).
-/

namespace CatalogSync

/-- What is built, or made of services without a snapshot, has none. -/
theorem Service.Made.snapshot_eq_none {s : Service} (h : s.Made fun known => known.snapshot = none) : s.snapshot = none := by
  induction h with
  | fresh url => rfl
  | copied h => exact h
  | withAuth _ _ ih | withOrigin _ _ ih => exact ih

/-- The changes from nothing add every entry and remove nothing. -/
theorem Graph.eq_of_diff_none {new : Graph} {c : ResourceChanges} (h : diff none new = .ok c) : c = ⟨new.entries, []⟩ := by
  rw [diff_none] at h
  obtain ⟨_, _, rfl⟩ := (diff_some_eq_ok_iff empty new c).1 h
  rw [lacking_empty, empty_lacking]
  rfl

namespace Engine

open Tick

variable {s : Scheduler} {start x y v : State} {e : Event} {es es' : List Event} {url : AccessUrl} {service : Service}

/-- A registration that finds nothing makes the service the entry. -/
theorem State.Step.registered {id : Nat} (hs : State.Step s x (.moved id (.answered (.register service) true)) y) :
    x.world.registry.get? service.url = none ∧ y.world.registry.get? service.url = some service := by
  generalize he : Event.moved id (.answered (.register service) true) = e at hs
  cases hs with
  | @move w w' before after past t m p hp =>
    obtain ⟨_, rfl⟩ := Event.moved.inj he
    cases hp.answers with
    | world ha =>
      rw [World.perform_register] at ha
      obtain ⟨hnew, rfl⟩ := Prod.mk.inj (Option.some.inj ha)
      rw [Registry.fst_put, Option.isNone_iff_eq_none] at hnew
      refine ⟨hnew, ?_⟩
      show (w.registry.put service).2.get? service.url = some service
      rw [Registry.get?_put, hnew, if_pos rfl]
      rfl
  | call | begin | finish | cut | pass => nomatch he

/-- A step that neither takes an entry out nor exchanges its snapshot leaves it as it is. -/
theorem State.Step.entry (hs : State.Step s x e y) (hx : x.world.registry.Keyed)
    (hentry : x.world.registry.get? url = some service) (hremove : ∀ id a, e ≠ .moved id (.answered (.remove url) a))
    (hexchange : e.exchange? url = none) : y.world.registry.get? url = some service := by
  cases hs with
  | @move w w' before after past t m p hp =>
    have hkept : ∀ a, m ≠ .answered (.remove url) a := by
      rintro a rfl
      exact hremove t.id a rfl
    rcases hp.entry hx hentry hkept with ⟨expected, new, rfl, _, _⟩ | ⟨hw', _⟩
    · simp [Event.exchange?] at hexchange
    · exact hw'
  | @finish w before after past t report hr => cases report.tick? <;> exact hentry
  | call | begin | cut | pass => exact hentry

/-- So does a run of such steps. -/
theorem State.Run.entry (h : State.Run s x es y) (hx : x.world.registry.Keyed) (hentry : x.world.registry.get? url = some service)
    (hremove : ∀ id a, .moved id (.answered (.remove url) a) ∉ es) (hexchange : exchanges url es = []) :
    y.world.registry.get? url = some service := by
  have hnone : ∀ e ∈ es, e.exchange? url = none := List.filterMap_eq_nil_iff.1 hexchange
  have hall : y.world.registry.Keyed ∧ y.world.registry.get? url = some service := by
    refine h.invariant (P := fun y => y.world.registry.Keyed ∧ y.world.registry.get? url = some service) ⟨hx, hentry⟩ ?_
    intro e he v z hy hs
    refine ⟨hy.1.edit hs.edit, hs.entry hy.1 hy.2 ?_ (hnone e he)⟩
    rintro id a rfl
    exact hremove id a he
  exact hall.2

/-- What the first tick of a registration comes to: it stored nothing, or it stored a graph and handed to the catalog the changes from
the registered snapshot to the graph. -/
inductive State.Stint.First (onlySubmodels : Bool) (service : Service) (ds : List Deed) (z : State) : Except Halt TickResult → Prop where
  | unfinished {r : Except Halt TickResult} (hw : ∀ d ∈ ds, d.Idle) (he : z.world.registry.get? service.url = some service) :
    First onlySubmodels service ds z r
  | finished {r : Except Halt TickResult} {fetching emission : List Move} {graph : Graph} {c : ResourceChanges} {id time : Nat}
    (hf : Fetching service graph fetching)
    (hd : Graph.diff (service.snapshot.map Snapshot.graph) (keptGraph onlySubmodels graph) = .ok c)
    (hm : Emission service.url c emission r)
    (hc : Deed.calls ds = fetching ++ .answered (.swap service.url service.snapshot ⟨id, keptGraph onlySubmodels graph⟩)
      (.ok service.snapshot) :: emission)
    (he : z.world.registry.get? service.url =
      some { service with snapshot := some ⟨id, keptGraph onlySubmodels graph⟩, lastSynced := some time })
    (hn : service.Made (fun known => known.snapshot = none) → c = ⟨(keptGraph onlySubmodels graph).entries, []⟩) :
    First onlySubmodels service ds z r

theorem Tick.Unfetched.uncommitted {calls : List Move} {fs : List Failure} (h : Unfetched service calls fs) :
    ∀ m ∈ calls, m.commits = false := by
  cases h with
  | unresolved => exact uncommitted_lookups _ _
  | refused => exact uncommitted_concat (uncommitted_lookups _ _) rfl

/-- Deeds without a call that commits change nothing. -/
theorem State.Stint.Accounted.unchanged {y : Synchronizer} {z : State} {ds : List Deed} {r : Except Halt TickResult} {entry : Service}
    (h : Accounted y url service x z ds r entry) (hc : ∀ m ∈ Deed.calls ds, m.commits = false) : ∀ d ∈ ds, d.Idle := by
  intro d hd
  refine h.idle d hd ?_
  cases hcall : d.move.isCall with
  | true => exact Move.writes_of_commits_eq_false (hc _ (Deed.mem_calls hd hcall))
  | false => exact Move.writes_of_commits_eq_false (Move.commits_of_isCall_eq_false hcall)

/-- A tick of a service that is the entry comes to what the first one comes to. -/
theorem State.Stint.Accounted.first {y : Synchronizer} {z : State} {ds : List Deed} {r : Except Halt TickResult} {entry : Service}
    (h : Accounted y service.url service x z ds r entry) : First y.onlySubmodels service ds z r := by
  have hidle := h.unchanged
  have hentry := h.entry
  generalize hcalls : Deed.calls ds = calls at hidle
  cases hcalls ▸ h.account with
  | unfetched hf => exact .unfinished (hidle hf.uncommitted) hentry
  | repeating hf _ _ => exact .unfinished (hidle hf.uncommitted) hentry
  | halted hf _ => exact .unfinished (hidle hf) hentry
  | stored hf hd hm =>
    refine .finished hf hd hm hcalls hentry fun hmade => ?_
    rw [hmade.snapshot_eq_none] at hd
    exact Graph.eq_of_diff_none hd

/-- Whenever a registration finds no entry, what it registers is the entry, snapshot and all, until a tick stores a graph or the entry is
taken out. The first tick that comes to store one, however it is interleaved with everything else, compares the graph with the snapshot
that was registered. So if the service was built, or is a copy of one that had no snapshot, the tick adds every resource of the graph
and removes none. -/
theorem State.Run.bootstraps (h : State.Run s start es x) (hq : start.Quiet) {id : Nat}
    (hs : State.Step s x (.moved id (.answered (.register service) true)) y) (hv : State.Run s y es' v)
    (hremove : ∀ id a, .moved id (.answered (.remove service.url) a) ∉ es') (hexchange : exchanges service.url es' = []) :
    x.world.registry.get? service.url = none ∧ v.world.registry.get? service.url = some service ∧
    ∀ {synchronizer : Synchronizer} {g : Guard} {k ds z t result}, g.url = service.url →
      State.Stint s k v (synchronizer.attempt g) ds z t (.done result) →
      ∃ r, result = synchronizer.told r ∧ State.Stint.First synchronizer.onlySubmodels service ds z r := by
  have hx : x.Kept lawless := h.kept (hq.kept fun _ => trivial) fun e _ => lawless_allows e
  have hy : y.Kept lawless := hx.step hs (lawless_allows _)
  have hkept : v.Kept lawless := hv.kept hy fun e _ => lawless_allows e
  obtain ⟨hnone, hsome⟩ := hs.registered
  have hentry : v.world.registry.get? service.url = some service := hv.entry hy.sane.keyed hsome hremove hexchange
  refine ⟨hnone, hentry, fun {synchronizer g k ds z t result} hg hst => ?_⟩
  rw [← hg] at hentry
  obtain ⟨_, _, r, entry, hr, hacc⟩ := hst.accounts hkept hentry
  exact ⟨r, hr, (hg ▸ hacc).first⟩

/-- A service is registered, ticked and unregistered, and then registered again as it was built. The first tick after that brings the
submodel that the earlier one had brought already, and the new one. -/
theorem State.Run.bootstraps_registered_again :
    let url : AccessUrl := ⟨"http://host"⟩
    let s : Scheduler := ⟨⟨false, 50⟩, false, [], 1000⟩
    let start : State := ⟨World.initial (.ofNat 1), [], []⟩
    let service : Service := .fresh url
    let c : ResourceChanges := ⟨[⟨.root .submodel "a", .null⟩, ⟨.root .submodel "b", .null⟩], []⟩
    ∃ es x id y es' v g k ds z t, State.Run s start es x ∧ start.Quiet ∧
      (x.sight url).told = [.success (some ⟨[.root .submodel "a"], []⟩), .success (some ⟨[], [.root .submodel "a"]⟩)] ∧
      State.Step s x (.moved id (.answered (.register service) true)) y ∧ State.Run s y es' v ∧
      (∀ id a, .moved id (.answered (.remove url) a) ∉ es') ∧ exchanges url es' = [] ∧ g.url = url ∧
      State.Stint s k v (s.synchronizer.attempt g) ds z t (.done (.ok (.success (some c)))) ∧
      ∃ r, .ok (.success (some c)) = s.synchronizer.told r ∧ State.Stint.First s.synchronizer.onlySubmodels service ds z r := by
  intro url s start service c
  let new : Graph := ⟨[.root .submodel "a" .null, .root .submodel "b" .null]⟩
  let go (n : Nat) : List Choice := List.replicate n (.move 0 .go)
  let fetched : Choice := .move 0 (.fetched (.ok (.ok ⟨[.root .submodel "a" .null]⟩)))
  let earlier : List Choice := [.call (.register service), .move 0 .go, .finish 0] ++ .call (.synchronize url) :: go 3 ++
    fetched :: go 6 ++ [.finish 0] ++ .call (.unregister url) :: go 6 ++ [.finish 0]
  -- the world when the service is about to be registered again, is, and is about to be ticked
  let called (w : World) : World := { w with taskCount := w.taskCount + 1 }
  let registered (w : World) : World := { called w with registry := (w.registry.put service).2 }
  let marked (w : World) : World := ((called (registered w)).tryMark url).2
  have hplayed : ((State.replay s start earlier).bind fun r =>
      ((s.synchronizer.attempt ⟨r.2.world.guardCount, url⟩).work? (marked r.2.world)
        [(0, .go), (0, .go), (0, .fetched (.ok (.ok new))), (0, .go), (0, .go), (0, .go), (0, .go)]).map fun r' =>
        ((r.2.sight url).told, r.2.world.registry.contains url, r.2.world.inFlight.contains url, r'.2.2.value?)) =
      some ([.success (some ⟨[.root .submodel "a"], []⟩), .success (some ⟨[], [.root .submodel "a"]⟩)], false, false,
        some (.ok (.success (some c)))) := by
    cbv
  obtain ⟨⟨es, ⟨w, ts, past⟩⟩, hearlier, h⟩ := Option.bind_eq_some_iff.1 hplayed
  obtain ⟨⟨ds, w', q⟩, hwork, h⟩ := Option.map_eq_some_iff.1 h
  obtain ⟨htold, hc, hu, hvalue⟩ : _ ∧ _ ∧ _ ∧ _ := by simpa only [Prod.mk.injEq] using h
  obtain rfl := Program.eq_done_of_value? hvalue
  let t₁ : Task := .start s w.taskCount (.operation (.register service))
  let x : State := ⟨called w, ts ++ t₁ :: [], past⟩
  have hrun : State.Run s start (es ++ [.called w.taskCount (.register service)]) x :=
    (State.run_of_replay hearlier).step (.call w ts past _)
  have hnew : (called w).perform (.register service) = some (true, registered w) := by
    have hnone : w.registry.get? url = none := by simpa [Registry.contains] using hc
    rw [World.perform_register, Registry.fst_put]
    show some ((w.registry.get? url).isNone, registered w) = _
    rw [hnone]
    rfl
  have hstep : State.Step s x (.moved w.taskCount (.answered (.register service) true))
      ⟨registered w, ts ++ t₁.move (.answered (.register service) true) (.done (.registered true)) :: [], past⟩ :=
    .move (.ask (.world hnew))
  let past' : List Task := past ++ [t₁.move (.answered (.register service) true) (.done (.registered true))]
  let t₂ : Task := .start s (registered w).taskCount (.operation (.synchronize url))
  let g : Guard := ⟨w.guardCount, url⟩
  have hended : State.Step s ⟨registered w, ts ++ t₁.move (.answered (.register service) true) (.done (.registered true)) :: [], past⟩
      (.ended w.taskCount (.registered true)) ⟨registered w, ts ++ [], past'⟩ := .finish rfl
  have hcalled : State.Step s ⟨registered w, ts ++ [], past'⟩ (.called (registered w).taskCount (.synchronize url))
      ⟨called (registered w), ts ++ [] ++ t₂ :: [], past'⟩ := .call (registered w) _ _ _
  have hmark : Program.Step (called (registered w)) t₂.program (.answered (.tryMark url) (some g)) (marked w)
      (s.synchronizer.attempt g >>= Synchronizer.finish g) := by
    have hfree : (called (registered w)).inFlight.contains url = false := hu
    have hmarked : (called (registered w)).tryMark url = (some g, marked w) := by
      simp only [marked, World.tryMark, hfree]
      rfl
    show Program.Step _ ((Operation.synchronize url).program s) _ _ _
    rw [Synchronizer.program_synchronize]
    exact .ask (.world (congrArg some hmarked))
  let t₃ : Task := t₂.move (.answered (.tryMark url) (some g)) (s.synchronizer.attempt g >>= Synchronizer.finish g)
  have hmarked : State.Step s ⟨called (registered w), ts ++ [] ++ t₂ :: [], past'⟩
      (.moved (registered w).taskCount (.answered (.tryMark url) (some g))) ⟨marked w, ts ++ [] ++ t₃ :: [], past'⟩ := .move hmark
  have hquiet : start.Quiet := State.quiet_initial _
  have hlater := ((State.Run.refl.step hended).step hcalled).step hmarked
  obtain ⟨t', hst⟩ := (Program.works_of_work? (R := World.Passes) hwork fun v n => ⟨n, rfl⟩).stint
    (.start (List.mem_append_right _ (List.mem_singleton_self t₃)) rfl)
  exact ⟨_, x, _, _, _, _, g, _, ds, _, t', hrun, hquiet, htold, hstep, hlater, by simp, rfl, rfl, hst,
    (hrun.bootstraps hquiet hstep hlater (by simp) rfl).2.2 rfl hst⟩

/-- A copy of an entry is registered with the snapshot that it had, also when the resources of the snapshot are gone from the catalog. The
first tick after that fetches the same graph, brings nothing, and the catalog stays empty. -/
theorem State.Run.bootstraps_not_copies :
    let url : AccessUrl := ⟨"http://host"⟩
    let s : Scheduler := ⟨⟨false, 50⟩, false, [], 1000⟩
    let start : State := ⟨World.initial (.ofNat 1), [], []⟩
    let a : Reference := .root .submodel "a"
    let copy : Service := ⟨url, .none, some ⟨0, ⟨[.root .submodel "a" .null]⟩⟩, some 0, none⟩
    ∃ es x es' z, State.Run s start es x ∧ State.Run s x es' z ∧ x.world.registry.get? url = some copy ∧
      es'.filterMap Event.call? = [.unregister url, .register copy, .synchronize url] ∧ es'.any (Event.registers url) = true ∧
      z.sight url = ⟨[.success (some ⟨[a], []⟩), .success (some ⟨[], [a]⟩), .success (some ⟨[], []⟩)], [], true, none, some [a],
        some 0⟩ := by
  intro url s start a copy
  let go (n : Nat) : List Choice := List.replicate n (.move 0 .go)
  let fetched : Choice := .move 0 (.fetched (.ok (.ok ⟨[.root .submodel "a" .null]⟩)))
  let first : List Choice := [.call (.register (.fresh url)), .move 0 .go, .finish 0] ++ .call (.synchronize url) :: go 3 ++
    fetched :: go 6 ++ [.finish 0]
  let second : List Choice := .call (.unregister url) :: go 6 ++ [.finish 0, .call (.register copy), .move 0 .go, .finish 0] ++
    .call (.synchronize url) :: go 3 ++ fetched :: go 5 ++ [.finish 0]
  have hcopy : (State.replay s start first).map (fun r => r.2.world.registry.get? url) = some (some copy) := by cbv
  have hplayed : ((State.replay s start first).bind fun r => (r.2.replay s second).map fun r' =>
      (r'.1.any (Event.registers url), r'.2.sight url)) = some (true, ⟨[.success (some ⟨[a], []⟩), .success (some ⟨[], [a]⟩),
        .success (some ⟨[], []⟩)], [], true, none, some [a], some 0⟩) := by
    decide +kernel +zetaReduce
  obtain ⟨⟨es, x⟩, hfirst, h⟩ := Option.bind_eq_some_iff.1 hplayed
  obtain ⟨⟨es', z⟩, hsecond, h⟩ := Option.map_eq_some_iff.1 h
  obtain ⟨hregistered, hsight⟩ := Prod.mk.inj h
  rw [hfirst] at hcopy
  exact ⟨es, x, es', z, State.run_of_replay hfirst, State.run_of_replay hsecond, Option.some.inj hcopy, State.calls_of_replay hsecond,
    hregistered, hsight⟩

end Engine

end CatalogSync
