import CatalogSync.Proofs.Engine.Account
import CatalogSync.Proofs.Engine.Stint

/-!
# Abandoned ticks

A tick whose time is up never changes the catalog. It leaves the entry of its service as it was, unless its time is up while the
catalog is at its changes: then the graph stays stored that the catalog did not get (`State.Run.abandons`), and the next tick that
comes to success brings only what came after it (`State.Run.abandons_not_idly`).
-/

namespace CatalogSync.Engine

open Tick

/-- What a stint of a tick came to, as its caller is told it: its calls, and the site that it leaves. -/
structure State.Stint.Accounted (y : Synchronizer) (url : AccessUrl) (service : Service) (x z : State) (ds : List Deed)
    (r : Except Halt TickResult) (entry : Service) : Prop where
  account : Account y.onlySubmodels service (Deed.calls ds) entry r
  entry : z.world.registry.get? url = some entry
  shelf : z.world.catalog.entries url =
    ((Deed.calls ds).filterMap (Move.applied url)).foldl Shelf.apply (x.world.catalog.entries url)
  catalog : ∀ d ∈ ds, (∀ url, d.move.applied url = none) → d.after.catalog = d.before.catalog
  idle : ∀ d ∈ ds, d.move.writes = false → d.Idle

variable {s : Scheduler} {x z : State} {y : Synchronizer} {g : Guard} {k : Except String TickResult → Program Report}
  {service : Service} {ds : List Deed} {t : Task} {result : Except String TickResult}

/-- A tick of a registered service, among everything else that goes on, comes to what the account says. -/
theorem State.Stint.accounts (h : State.Stint s k x (y.attempt g) ds z t (.done result)) (hx : x.Kept lawless)
    (hs : x.world.registry.get? g.url = some service) :
    service.url = g.url ∧ z.Kept lawless ∧ ∃ r entry, result = y.told r ∧ Accounted y g.url service x z ds r entry := by
  have hurl : service.url = g.url := hx.sane.keyed _ _ hs
  have hstart : Log.At ⟨[], x.world⟩ g.url service [] := ⟨hs, rfl⟩
  have hmeets := y.meets_attempt (A := fun r => r.steady = true) (R := World.Spares g.url) hurl (fun _ hr => hr)
    (fun _ _ hr => hr.entry) hstart
  obtain ⟨v, hw, hv, hz, _⟩ := h.works hx (r := .service g.url) .ask rfl hmeets
  obtain ⟨r, hr, calls, entry, ha, hat⟩ := (hmeets.works hw).1
  obtain rfl : Deed.calls ds = calls := hat.calls
  refine ⟨hurl, hz, r, entry, hr, ha, hv.entry entry (hurl ▸ hat.entry), ?_, hw.catalog, hw.idle⟩
  rw [hv.shelf]
  exact hw.shelf fun _ _ hr => hr.shelf

namespace Tick

/-- An abandoned tick had stored nothing and not called the catalog, or the catalog was at its changes. -/
theorem Account.of_abandoned {onlySubmodels : Bool} {calls : List Move} {entry : Service} {r : Except Halt TickResult}
    (h : Account onlySubmodels service calls entry r) (hr : y.told r = .ok (abandoned y.timeout)) :
    (entry = service ∧ ∀ m ∈ calls, m.commits = false) ∨
    ∃ fetching graph c id time, Fetching service graph fetching ∧
      Graph.diff (service.snapshot.map Snapshot.graph) (keptGraph onlySubmodels graph) = .ok c ∧ c.isEmpty = false ∧
      calls = fetching ++ [.answered (.swap service.url service.snapshot ⟨id, keptGraph onlySubmodels graph⟩)
        (.ok service.snapshot), .expired (.apply service.url c)] ∧
      entry = { service with snapshot := some ⟨id, keptGraph onlySubmodels graph⟩, lastSynced := some time } := by
  cases h with
  | unfetched | repeating => nomatch hr
  | halted h => exact Or.inl ⟨rfl, h⟩
  | stored h hd he =>
    cases he with
    | nothing | applied | refused => nomatch hr
    | expired hc => exact Or.inr ⟨_, _, _, _, _, h, hd, hc, rfl, rfl⟩

/-- A tick that came to success with changes brought them to the catalog, if there were any. -/
theorem Account.of_success {onlySubmodels : Bool} {calls : List Move} {entry : Service} {r : Except Halt TickResult}
    {c : ResourceChanges} (h : Account onlySubmodels service calls entry r) (hr : y.told r = .ok (.success (some c)))
    (shelf : Shelf) :
    ∃ snapshot, entry.snapshot = some snapshot ∧ Graph.diff (service.snapshot.map Snapshot.graph) snapshot.graph = .ok c ∧
      (calls.filterMap (Move.applied service.url)).foldl Shelf.apply shelf = shelf.apply c := by
  cases h with
  | unfetched | repeating => nomatch hr
  | halted _ e => cases e <;> nomatch hr
  | stored h hd he =>
    have hfetching := h.applied service.url
    cases he with
    | refused | expired => nomatch hr
    | nothing hc =>
      cases hr
      refine ⟨_, rfl, hd, ?_⟩
      simp [List.filterMap_append, List.filterMap_cons, hfetching, Shelf.apply_of_isEmpty _ hc]
    | applied hc =>
      cases hr
      refine ⟨_, rfl, hd, ?_⟩
      simp [List.filterMap_append, List.filterMap_cons, hfetching]

end Tick

/-- A tick that is abandoned leaves the catalog as it was, and so the entry of its service, unless its time was up while the catalog
was at its changes: then the graph stays stored. The next tick that comes to success brings the changes from the snapshot that the
registry then has to the graph that it stores, so the catalog shows that graph if it showed the snapshot. -/
theorem State.Run.abandons {start : State} {es : List Event} (h : State.Run s start es x) (hq : start.Quiet)
    (hs : x.world.registry.get? g.url = some service)
    (hst : State.Stint s k x (y.attempt g) ds z t (.done (.ok (abandoned y.timeout)))) :
    (∀ d ∈ ds, d.after.catalog = d.before.catalog) ∧ z.world.catalog.entries g.url = x.world.catalog.entries g.url ∧
    ((z.world.registry.get? g.url = some service ∧ ∀ d ∈ ds, d.Idle ∧ d.move.commits = false) ∨
      ∃ fetching graph c id time, Fetching service graph fetching ∧
        Graph.diff (service.snapshot.map Snapshot.graph) (keptGraph y.onlySubmodels graph) = .ok c ∧ c.isEmpty = false ∧
        Deed.calls ds = fetching ++ [.answered (.swap g.url service.snapshot ⟨id, keptGraph y.onlySubmodels graph⟩)
          (.ok service.snapshot), .expired (.apply g.url c)] ∧
        z.world.registry.get? g.url =
          some { service with snapshot := some ⟨id, keptGraph y.onlySubmodels graph⟩, lastSynced := some time }) ∧
    ∀ {y' : Synchronizer} {es' x' k' g' ds' z' t' c}, State.Run s z es' x' → g'.url = g.url →
      x'.world.site g.url = z.world.site g.url →
      State.Stint s k' x' (y'.attempt g') ds' z' t' (.done (.ok (.success (some c)))) →
      ∃ before after snapshot, z.world.registry.get? g.url = some before ∧ z'.world.registry.get? g.url = some after ∧
        after.snapshot = some snapshot ∧ Graph.diff (before.snapshot.map Snapshot.graph) snapshot.graph = .ok c ∧
        z'.world.catalog.entries g.url = (z.world.catalog.entries g.url).apply c ∧
        ((z.world.catalog.entries g.url).Shows (((before.snapshot.map Snapshot.graph).map Graph.entries).getD []) →
          (z'.world.catalog.entries g.url).Shows snapshot.graph.entries) := by
  have hx : x.Kept lawless := h.kept (hq.kept fun _ => trivial) fun e _ => lawless_allows e
  obtain ⟨hurl, hz, r, entry, hr, hacc⟩ := hst.accounts hx hs
  -- the time was up before anything was stored, or while the catalog was at the changes
  have hcases := hacc.account.of_abandoned hr.symm
  have happlied : ∀ m ∈ Deed.calls ds, ∀ url, m.applied url = none := by
    intro m hm url
    rcases hcases with ⟨_, hearly⟩ | ⟨fetching, graph, c, id, time, hf, _, _, hcalls, _⟩
    · exact Move.applied_of_commits_eq_false (hearly m hm) url
    · rw [hcalls] at hm
      rcases List.mem_append.1 hm with hm | hm
      · exact Move.applied_of_commits_eq_false (hf.uncommitted m hm) url
      · simp only [List.mem_cons, List.not_mem_nil, or_false] at hm
        rcases hm with rfl | rfl <;> rfl
  -- what is no call applies nothing anyway
  have hnone : ∀ d ∈ ds, ∀ url, d.move.applied url = none := by
    intro d hd url
    cases hc : d.move.isCall with
    | true => exact happlied _ (Deed.mem_calls hd hc) url
    | false => exact Move.applied_of_isCall_eq_false hc url
  refine ⟨fun d hd => hacc.catalog d hd (hnone d hd), ?_, ?_, ?_⟩
  · rw [hacc.shelf, List.filterMap_eq_nil_iff.2 fun m hm => happlied m hm g.url]
    rfl
  · rcases hcases with ⟨rfl, hearly⟩ | ⟨fetching, graph, c, id, time, hf, hd, hc, hcalls, rfl⟩
    · refine Or.inl ⟨hacc.entry, fun d hd => ?_⟩
      have hcommits : d.move.commits = false := by
        cases hc : d.move.isCall with
        | true => exact hearly _ (Deed.mem_calls hd hc)
        | false => exact Move.commits_of_isCall_eq_false hc
      exact ⟨hacc.idle d hd (Move.writes_of_commits_eq_false hcommits), hcommits⟩
    · exact Or.inr ⟨fetching, graph, c, id, time, hf, hd, hc, hurl ▸ hcalls, hacc.entry⟩
  · -- the next success starts from the snapshot that is stored, abandoned or not
    intro y' es' x' k' g' ds' z' t' c h' hg' hsite hst'
    have hx' : x'.Kept lawless := h'.kept hz fun e _ => lawless_allows e
    have hentry : x'.world.registry.get? g'.url = some entry := by
      rw [hg']
      exact (congrArg Site.entry hsite).trans hacc.entry
    have hshelf : x'.world.catalog.entries g.url = z.world.catalog.entries g.url := congrArg Site.shelf hsite
    obtain ⟨hurl', _, r', entry', hr', hacc'⟩ := hst'.accounts hx' hentry
    rw [hg'] at hurl' hacc'
    obtain ⟨snapshot, hsnapshot, hd, happly⟩ := hacc'.account.of_success hr'.symm (z.world.catalog.entries g.url)
    have happly' : z'.world.catalog.entries g.url = (z.world.catalog.entries g.url).apply c := by
      rw [hacc'.shelf, hshelf, ← happly, hurl']
    refine ⟨entry, entry', snapshot, hacc.entry, hacc'.entry, hsnapshot, hd, happly', fun hshows => ?_⟩
    rw [happly']
    exact Graph.shows_of_diff hd hshows

/-- The time of the first tick of a service is up while the catalog is at its submodel. -/
theorem State.Run.abandons_while_applying :
    let url : AccessUrl := ⟨"http://host"⟩
    let s : Scheduler := ⟨⟨false, 50⟩, false, [], 1000⟩
    let start : State := ⟨{ World.initial (.ofNat 1) with registry := ⟨[(url, .fresh url)]⟩ }, [], []⟩
    let stored : Snapshot := ⟨0, ⟨[.root .submodel "sm" .null]⟩⟩
    let c : ResourceChanges := ⟨[⟨.root .submodel "sm", .null⟩], []⟩
    ∃ es x ds z t, State.Run s start es x ∧ start.Quiet ∧ x.world.registry.get? url = some (.fresh url) ∧
      State.Stint s (Synchronizer.finish ⟨0, url⟩) x (s.synchronizer.attempt ⟨0, url⟩) ds z t
        (.done (.ok (abandoned s.synchronizer.timeout))) ∧
      Deed.calls ds = [.answered (.fetch url []) (.ok (.ok stored.graph)), .answered (.swap url none stored) (.ok none),
        .expired (.apply url c)] ∧
      (∀ d ∈ ds, d.after.catalog = d.before.catalog) ∧ z.world.catalog.entries url = [] ∧
      z.world.registry.get? url = some { Service.fresh url with snapshot := some stored, lastSynced := some 20 } := by
  intro url s start stored c
  have hquiet : start.Quiet := ⟨rfl, rfl, rfl, rfl, rfl, Registry.keyed_empty.put (.fresh url)⟩
  let w : World := { start.world with taskCount := 1, inFlight := [url], guards := [⟨0, url⟩], guardCount := 1 }
  let t : Task := ⟨0, .operation (.synchronize url), [.answered (.tryMark url) (some ⟨0, url⟩)], none,
    s.synchronizer.attempt ⟨0, url⟩ >>= Synchronizer.finish ⟨0, url⟩⟩
  have hmark : Program.Step { start.world with taskCount := 1 } ((Operation.synchronize url).program s)
      (.answered (.tryMark url) (some ⟨0, url⟩)) w t.program := by
    rw [Synchronizer.program_synchronize]
    exact .ask (.world rfl)
  have hstep : State.Step s ⟨{ start.world with taskCount := 1 }, [.start s 0 (.operation (.synchronize url))], []⟩
      (.moved 0 (.answered (.tryMark url) (some ⟨0, url⟩))) ⟨w, [t], []⟩ := @State.Step.move s _ w [] [] [] _ _ _ hmark
  have hrun : State.Run s start _ ⟨w, [t], []⟩ := .step (.step .refl (.call _ _ _ (.synchronize url))) hstep
  obtain ⟨ds, w', q, hw, hx⟩ := Program.exists_works (R := World.Passes) (w := w) (p := s.synchronizer.attempt ⟨0, url⟩)
    (c := [(0, .go), (0, .go), (20, .fetched (.ok (.ok stored.graph))), (0, .go), (0, .go), (0, .go), (30, .expire)])
    (b := ([.answered (.fetch url []) (.ok (.ok stored.graph)), .answered (.swap url none stored) (.ok none),
      .expired (.apply url c)], [], some { Service.fresh url with snapshot := some stored, lastSynced := some 20 },
      some (.ok (abandoned s.synchronizer.timeout))))
    (fun ds w' x => (Deed.calls ds, w'.catalog.entries url, w'.registry.get? url, x))
    (by cbv : (Program.work? w _ _).map _ = _) fun v n => ⟨n, rfl⟩
  obtain ⟨hcalls, hentries, hentry, hq⟩ : _ ∧ _ ∧ _ ∧ _ := by simpa only [Prod.mk.injEq] using hx
  obtain rfl := Program.eq_done_of_value? hq
  have hstart : State.Stint s (Synchronizer.finish ⟨0, url⟩) ⟨w, [t], []⟩ (s.synchronizer.attempt ⟨0, url⟩) []
      ⟨w, [] ++ t :: [], []⟩ t _ :=
    .start (List.mem_singleton_self t) rfl
  obtain ⟨t', hst⟩ := hw.stint hstart
  exact ⟨_, _, ds, _, t', hrun, hquiet, rfl, hst, hcalls, (hrun.abandons hquiet rfl hst).1, hentries, hentry⟩

/-- It does not leave everything as it was, nor does the next tick bring all that is outstanding. The time of the first tick of a
service is up while the catalog is at its submodel: the submodel stays stored, and the next tick comes to success with nothing to
bring. And where the catalog refused the submodel, neither an abandoned tick nor the one after it brings it. -/
theorem State.Run.abandons_not_idly :
    let url : AccessUrl := ⟨"http://host"⟩
    let s : Scheduler := ⟨⟨false, 50⟩, false, [], 1000⟩
    let start : State := ⟨{ World.initial (.ofNat 1) with registry := ⟨[(url, .fresh url)]⟩ }, [], []⟩
    let sm : Reference := .root .submodel "sm"
    let late : Outcome (Option Brought) := .recoverable none [.warning "tick abandoned after 50ms"]
    let refused : Outcome (Option Brought) := .recoverable (some (some ⟨[sm], []⟩))
      [⟨.warning, some "emitting", "Catalog update failed: Catalog unavailable: offline"⟩]
    let nothing : Outcome (Option Brought) := .success (some ⟨[], []⟩)
    start.sight url = ⟨[], [], true, none, none, none⟩ ∧
    (∃ es x es' z, State.Run s start es x ∧ State.Run s x es' z ∧ x.sight url = ⟨[late], [], true, none, some [sm], some 20⟩ ∧
      z.sight url = ⟨[late, nothing], [], true, none, some [sm], some 70⟩) ∧
    ∃ es x es' z, State.Run s start es x ∧ State.Run s x es' z ∧ x.sight url = ⟨[refused], [], true, none, some [sm], some 20⟩ ∧
      z.sight url = ⟨[refused, late, nothing], [], true, none, some [sm], some 90⟩ := by
  intro url s start sm late refused nothing
  let graph : Graph := ⟨[.root .submodel "sm" .null]⟩
  -- up to the answer of the client, from there to the catalog, and the end
  let ask : List Choice := [.call (.synchronize url), .move 0 .go, .move 0 .go, .move 0 .go, .pass 20]
  let store : List Choice := [.move 0 (.fetched (.ok (.ok graph))), .move 0 .go, .move 0 .go, .move 0 .go]
  let leave : List Choice := [.move 0 .go, .move 0 .go, .finish 0]
  refine ⟨by decide +kernel, ?_, ?_⟩
  · obtain ⟨es, x, es', z, hx, hz, h⟩ := State.exists_runs (s := s) (x := start)
      (b := (⟨[late], [], true, none, some [sm], some 20⟩, ⟨[late, nothing], [], true, none, some [sm], some 70⟩))
      (fun x z => (x.sight url, z.sight url))
      (by decide +kernel +zetaReduce : (State.replay s start (ask ++ store ++ [.pass 30, .move 0 .expire] ++ leave)).bind
        (fun r => (r.2.replay s (ask ++ store ++ leave)).map _) = _)
    obtain ⟨hxs, hzs⟩ := Prod.mk.inj h
    exact ⟨es, x, es', z, hx, hz, hxs, hzs⟩
  · obtain ⟨es, x, es', z, hx, hz, h⟩ := State.exists_runs (s := s) (x := start)
      (b := (⟨[refused], [], true, none, some [sm], some 20⟩, ⟨[refused, late, nothing], [], true, none, some [sm], some 90⟩))
      (fun x z => (x.sight url, z.sight url))
      (by decide +kernel +zetaReduce :
        (State.replay s start (ask ++ store ++ [.move 0 (.refused (.unavailable "offline")), .move 0 .go] ++ leave)).bind
        (fun r => (r.2.replay s (ask ++ [.pass 30, .move 0 .expire] ++ leave ++ ask ++ store ++ leave)).map _) = _)
    obtain ⟨hxs, hzs⟩ := Prod.mk.inj h
    exact ⟨es, x, es', z, hx, hz, hxs, hzs⟩

end CatalogSync.Engine
