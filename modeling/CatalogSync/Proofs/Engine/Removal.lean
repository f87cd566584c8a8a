import CatalogSync.Proofs.Engine.Account
import CatalogSync.Proofs.Engine.Mirror
import CatalogSync.Proofs.Engine.Stint

/-!
# What an unregistration removes

An unregistration removes from the catalog what the last snapshot of the registry names, and no more (`State.Run.unregisters`). Nothing
is left if the catalog showed that snapshot. Where an earlier change set did not get through, what it was to remove stays, though the
unregistration comes to success (`State.Run.unregisters_leaving_entries`).
-/

namespace CatalogSync.Engine

/-- How cleaning up ends: with the entry taken out of the registry, the calls, and the result. -/
inductive Cleaned (url : AccessUrl) : Option Service → List Move → TickResult → Prop where
  | absent : Cleaned url none [.answered (.remove url) none] (Tick.notRegistered url)
  /-- The catalog is not called for nothing. -/
  | nothing {service : Service} (h : (cleanupOf service).isEmpty = true) :
    Cleaned url (some service) [.answered (.remove url) (some service)] (.success (some (cleanupOf service)))
  | applied {service : Service} (h : (cleanupOf service).isEmpty = false) :
    Cleaned url (some service) [.answered (.remove url) (some service), .answered (.apply url (cleanupOf service)) (.ok ())]
      (.success (some (cleanupOf service)))
  | refused {service : Service} (h : (cleanupOf service).isEmpty = false) (e : ApplyError) :
    Cleaned url (some service) [.answered (.remove url) (some service), .answered (.apply url (cleanupOf service)) (.error e)]
      (.recoverable (some (some (cleanupOf service))) [(SyncError.apply e).toFailure])

/-- A shelf without what a service's snapshot names. -/
theorem mem_apply_cleanupOf (service : Service) (shelf : Shelf) (e : Entry) :
    e ∈ shelf.apply (cleanupOf service) ↔
      e ∈ shelf ∧ ∀ snapshot, service.snapshot = some snapshot → e.reference ∉ snapshot.graph.references := by
  cases hx : service.snapshot with
  | none => simp [cleanupOf, hx, Shelf.apply, ChangeSet.empty]
  | some x => simp [cleanupOf, hx, Shelf.apply, Graph.removal, ChangeSet.removeAll, ChangeSet.empty, Shelf.mem_foldl_erase]

/-- What was taken out is what the first call was answered with. -/
theorem Cleaned.head?_calls {url : AccessUrl} {entry : Option Service} {calls : List Move} {r : TickResult}
    (h : Cleaned url entry calls r) : calls.head? = some (.answered (.remove url) entry) := by
  cases h <;> rfl

/-- A cleanup that came to success brought the removal of the entry's snapshot to the catalog, if there was anything to remove. -/
theorem Cleaned.of_success {url : AccessUrl} {entry : Option Service} {calls : List Move} {c : Option ResourceChanges}
    (h : Cleaned url entry calls (.success c)) (shelf : Shelf) :
    ∃ service, entry = some service ∧ c = some (cleanupOf service) ∧
      (calls.filterMap (Move.applied url)).foldl Shelf.apply shelf = shelf.apply (cleanupOf service) := by
  generalize hr : Outcome.success c = r at h
  cases h with
  | absent | refused => nomatch hr
  | nothing h =>
    cases hr
    exact ⟨_, rfl, rfl, (Shelf.apply_of_isEmpty shelf h).symm⟩
  | @applied service h =>
    cases hr
    refine ⟨_, rfl, rfl, ?_⟩
    simp [List.filterMap_cons, Move.applied]

/-- Cleaning up takes out the entry that is there, and ends in one of the ways that there are. -/
theorem meets_cleanUp {A : Request → Prop} {R : World → World → Prop} {url : AccessUrl} (hA : ∀ r, r.steady = true → A r)
    (hR : KeepsEntry R url) {l : Log} (hl : Deed.calls l.deeds = []) :
    (cleanUp url).Meets (working A R) l fun r l' =>
      ∃ entry, (∀ s, l.world.registry.get? url = some s → entry = some s) ∧ Cleaned url entry (Deed.calls l'.deeds) r := by
  have hremove : (Program.request (.remove url)).Meets (working A R) l fun a l' =>
      (∀ s, l.world.registry.get? url = some s → a = some s) ∧ Deed.calls l'.deeds = [.answered (.remove url) a] := by
    refine ⟨hA _ rfl, rfl, fun v hr => ⟨fun a v' ha => ⟨fun s hs => ?_, ?_⟩, trivial⟩⟩
    · cases ha with
      | world ha =>
        cases ha
        exact hR _ _ hr s hs
    · rw [l.calls_add, hl]
      rfl
  refine hremove.seq ?_
  rintro (_ | service) l' ⟨hentry, hcalls⟩
  · exact ⟨none, hentry, hcalls ▸ .absent⟩
  · dsimp only
    split
    · rename_i hc
      exact ⟨some service, hentry, hcalls ▸ .nothing hc⟩
    · rename_i hc
      have hc : (cleanupOf service).isEmpty = false := Bool.eq_false_iff.2 hc
      have happly : (Program.request (.apply url (cleanupOf service))).Meets (working A R) l' fun a l'' =>
          Deed.calls l''.deeds = [.answered (.remove url) (some service), .answered (.apply url (cleanupOf service)) a] := by
        refine ⟨hA _ rfl, rfl, fun v _ => ⟨fun a v' _ => ?_, trivial⟩⟩
        show Deed.calls (l'.add _ _ _).deeds = _
        rw [l'.calls_add, hcalls]
        rfl
      refine happly.seq ?_
      rintro (e | ⟨⟩) l'' hcalls'
      · exact ⟨some service, hentry, hcalls' ▸ .refused hc e⟩
      · exact ⟨some service, hentry, hcalls' ▸ .applied hc⟩

variable {s : Scheduler} {x z : State} {g : Guard} {ds : List Deed} {t : Task}

/-- Cleaning up with the guard of a URL, among everything else that goes on. -/
theorem State.Stint.cleans {k : TickResult → Program Report} {r : TickResult} (h : State.Stint s k x (cleanUp g.url) ds z t (.done r))
    (hx : x.Kept lawless) :
    ∃ entry, (∀ s, x.world.registry.get? g.url = some s → entry = some s) ∧ Cleaned g.url entry (Deed.calls ds) r ∧
      z.world.catalog.entries g.url =
        ((Deed.calls ds).filterMap (Move.applied g.url)).foldl Shelf.apply (x.world.catalog.entries g.url) ∧
      z.Kept lawless ∧ t.Holds g.url := by
  have hmeets : (cleanUp g.url).Meets (working (fun r => r.steady = true) (World.Spares g.url)) ⟨[], x.world⟩ _ :=
    meets_cleanUp (fun _ hr => hr) (fun _ _ hr => hr.entry) rfl
  obtain ⟨v, hw, hv, hz, hheld⟩ := h.works hx (r := .remove g.url) .ask rfl hmeets
  obtain ⟨entry, hentry, hc⟩ := (hmeets.works hw).1
  refine ⟨entry, hentry, hc, ?_, hz, hheld⟩
  rw [hv.shelf]
  exact hw.shelf fun _ _ hr => hr.shelf

/-- An unregistration waits for the guard, cleans up and gives the guard back. -/
theorem unregister_eq (url : AccessUrl) : unregister url = .hold url .listen fun g => do
    let r ← cleanUp url
    Program.release g
    return r := rfl

/-- A spell that gives a guard back, and what it did for that. -/
theorem State.Spell.of_release {α : Type} {k : α → Program Report} {u : Task} {es : List Event} {d : Deed} {r r' : α}
    (h : State.Spell s k x u (do Program.release g; return r) es (d :: ds) z t (.done r')) :
    r' = r ∧ d.move = .answered (.unmark g) () ∧ ds.map Deed.move = [.answered .wake ()] := by
  obtain ⟨_, _, y₀, y, v, ⟨⟩, _, rfl, _, _, _, hwake⟩ := h.of_ask
  obtain ⟨⟨⟩, ms, hms, htrace⟩ := Program.Trace.of_ask hwake.trace
  obtain ⟨rfl, rfl⟩ := Program.Trace.of_done htrace
  exact ⟨rfl, rfl, hms⟩

/-- A spell of an unregistration that is done: the wait for the guard, the cleanup, and the release. -/
theorem State.Spell.of_unregister {k : TickResult → Program Report} {u : Task} {es : List Event} {url : AccessUrl} {r : TickResult}
    (h : State.Spell s k x u (unregister url) es ds z t (.done r)) :
    ∃ es₁ es₂ es₃ waiting cleaning d ds₃ x₁ u₁ q₁ y v x₂ v₂ g,
      es = es₁ ++ .moved u.id (.took g) :: (es₂ ++ es₃) ∧
      ds = waiting ++ ⟨x₁.world, .took g, y.world⟩ :: (cleaning ++ d :: ds₃) ∧ Deed.calls waiting = [] ∧
      x₁.world.tryMark url = (some g, y.world) ∧ State.Spell s k x u (unregister url) es₁ waiting x₁ u₁ q₁ ∧
      State.Step s x₁ (.moved u.id (.took g)) y ∧
      State.Spell s (fun r => (do Program.release g; return r) >>= k) y v (cleanUp url) es₂ cleaning x₂ v₂ (.done r) ∧
      State.Spell s k x₂ v₂ (do Program.release g; return r) es₃ (d :: ds₃) z t (.done r) ∧ d.before = x₂.world ∧
      d.move = .answered (.unmark g) () ∧ ds₃.map Deed.move = [.answered .wake ()] := by
  rw [unregister_eq] at h
  obtain ⟨_, _, he⟩ | ⟨es₁, es', waiting, ds', x₁, u₁, vigil, y, v, g, rfl, rfl, hcalls, hmark, hwait, hstep, hrest⟩ := h.of_hold
  · nomatch he
  obtain ⟨p, he, hp⟩ | ⟨es₂, es₃, cleaning, d, ds₃, x₂, v₂, a, rfl, rfl, hd, hclean, hrelease⟩ := hrest.of_bind
  · cases p with
    | done a => nomatch he
    | ask | within | hold => nomatch he
  obtain ⟨rfl, hunmark, hwake⟩ := hrelease.of_release
  exact ⟨es₁, es₂, es₃, waiting, cleaning, d, ds₃, x₁, u₁, _, y, v, x₂, v₂, g, rfl, rfl, hcalls, hmark, hwait, hstep, hclean, hrelease,
    hd, hunmark, hwake⟩

/-- An unregistration that comes to success took an entry out of the registry while nobody else was at work on the URL, and removed
from the catalog what the snapshot of that entry names: between the state in which it got the guard and the one in which it gave the
guard back. All that the catalog had besides stays, so nothing is left if it showed what the registry had. -/
theorem State.Run.unregisters {start : State} {es₀ es : List Event} (h : State.Run s start es₀ x) (hq : start.Quiet)
    {k : TickResult → Program Report} {u : Task} {url : AccessUrl} {c : Option ResourceChanges}
    (hst : State.Spell s k x u (unregister url) es ds z t (.done (.success c))) :
    ∃ es₁ es₂ es₃ waiting cleaning released x₁ u₁ q₁ y v x₂ v₂ g service,
      -- the wait for the guard, the cleanup and the release
      es = es₁ ++ .moved u.id (.took g) :: (es₂ ++ es₃) ∧
      ds = waiting ++ ⟨x₁.world, .took g, y.world⟩ :: (cleaning ++ released) ∧ g.url = url ∧
      State.Spell s k x u (unregister url) es₁ waiting x₁ u₁ q₁ ∧ State.Step s x₁ (.moved u.id (.took g)) y ∧
      State.Spell s (fun r => (do Program.release g; return r) >>= k) y v (cleanUp url) es₂ cleaning x₂ v₂ (.done (.success c)) ∧
      State.Spell s k x₂ v₂ (do Program.release g; return .success c) es₃ released z t (.done (.success c)) ∧
      released.map Deed.move = [.answered (.unmark g) (), .answered .wake ()] ∧ released.head?.map Deed.before = some x₂.world ∧
      url ∉ x₁.world.inFlight ∧ url ∈ x₂.world.inFlight ∧ (∀ s', x₁.world.registry.get? url = some s' → s' = service) ∧
      c = some (cleanupOf service) ∧ Cleaned url (some service) (Deed.calls ds) (.success c) ∧
      (∀ e, e ∈ x₂.world.catalog.entries url ↔ e ∈ x₁.world.catalog.entries url ∧
        ∀ snapshot, service.snapshot = some snapshot → e.reference ∉ snapshot.graph.references) ∧
      ((x₁.world.catalog.entries url).Shows (shownBy (x₁.world.registry.get? url)) → x₂.world.catalog.entries url = []) := by
  obtain ⟨es₁, es₂, es₃, waiting, cleaning, d, ds₃, x₁, u₁, q₁, y, v, x₂, v₂, g, rfl, rfl, hwait, hmark, hspell, hstep, hclean,
    hrelease, hd, hunmark, hwake⟩ := hst.of_unregister
  obtain ⟨hfree, hg, hy⟩ := World.tryMark_eq_some hmark
  obtain rfl : g.url = url := congrArg Guard.url hg
  have hx : x.Kept lawless := h.kept (hq.kept fun _ => trivial) fun e _ => lawless_allows e
  have hx₁ : x₁.Kept lawless := hspell.run.kept hx fun e _ => lawless_allows e
  obtain ⟨entry, hentry, hcleaned, hshelf, hx₂, g', hg', hu⟩ := hclean.stint.cleans (hx₁.step hstep (lawless_allows _))
  obtain ⟨service, rfl, rfl, happly⟩ := hcleaned.of_success (x₁.world.catalog.entries g.url)
  have hsame : ∀ s', x₁.world.registry.get? g.url = some s' → s' = service := by
    intro s' hs'
    refine (Option.some.inj (hentry s' ?_)).symm
    rw [hy]
    exact hs'
  have hcatalog : y.world.catalog = x₁.world.catalog := by rw [hy]
  have hafter : x₂.world.catalog.entries g.url = (x₁.world.catalog.entries g.url).apply (cleanupOf service) := by
    rw [hshelf, hcatalog, happly]
  have hheld : g.url ∈ x₂.world.inFlight := by
    rw [← hu]
    exact hx₂.sane.mem_inFlight
      (hx₂.owners.subset (List.mem_append_left _ (List.mem_flatMap.2 ⟨v₂, hclean.mem.1, hg'⟩)))
  -- the calls of the unregistration are those of the cleanup
  have hreleased : (d :: ds₃).map Deed.move = [.answered (.unmark g) (), .answered .wake ()] := by
    rw [List.map_cons, hunmark, hwake]
  have hcalls : Deed.calls (waiting ++ ⟨x₁.world, .took g, y.world⟩ :: (cleaning ++ d :: ds₃)) = Deed.calls cleaning := by
    have hnone : Deed.calls (d :: ds₃) = [] := by
      unfold Deed.calls
      rw [hreleased]
      rfl
    rw [Deed.calls_append, hwait]
    show Deed.calls (cleaning ++ d :: ds₃) = _
    rw [Deed.calls_append, hnone, List.append_nil]
  refine ⟨es₁, es₂, es₃, waiting, cleaning, _, x₁, u₁, q₁, y, v, x₂, v₂, g, service, rfl, rfl, rfl, hspell, hstep, hclean, hrelease,
    hreleased, congrArg some hd, hfree, hheld, hsame, rfl, hcalls ▸ hcleaned, ?_, ?_⟩
  · intro e
    rw [hafter]
    exact mem_apply_cleanupOf service _ e
  · intro hshows
    rw [hafter]
    cases hs : x₁.world.registry.get? g.url with
    | none =>
      rw [hs] at hshows
      rw [(Shelf.shows_nil_iff _).1 hshows, List.eq_nil_iff_forall_not_mem]
      exact fun e he => nomatch ((mem_apply_cleanupOf service _ e).1 he).1
    | some s' =>
      obtain rfl := hsame s' hs
      rw [hs] at hshows
      exact (Shelf.shows_nil_iff _).1 (mirroring.owed_of_remove hshows (hx₁.sane.keyed _ _ hs))

/-- A service is unregistered while the catalog shows its submodel. -/
theorem State.Run.unregisters_shown_submodel :
    let url : AccessUrl := ⟨"http://host"⟩
    let s : Scheduler := ⟨⟨false, 50⟩, false, [], 1000⟩
    let sm : Entry := ⟨.root .submodel "sm", .null⟩
    let stored : Snapshot := ⟨0, ⟨[.root .submodel "sm" .null]⟩⟩
    let service : Service := { Service.fresh url with snapshot := some stored, lastSynced := some 0 }
    let start : State := ⟨{ World.initial (.ofNat 1) with
      registry := ⟨[(url, service)]⟩, catalog := ⟨[(url, [sm])]⟩, snapshotCount := 1 }, [], []⟩
    let c : ResourceChanges := ⟨[], [sm.reference]⟩
    ∃ es₀ x u es ds z t, State.Run s start es₀ x ∧ start.Quiet ∧
      State.Spell s (fun r => .done (.unregistered r)) x u (unregister url) es ds z t (.done (.success (some c))) ∧
      Deed.calls ds = [.answered (.remove url) (some service), .answered (.apply url c) (.ok ())] ∧
      z.world.catalog.entries url = [] ∧
      ∃ x₁ x₂ : State, url ∉ x₁.world.inFlight ∧ url ∈ x₂.world.inFlight ∧
        ∀ e, e ∈ x₂.world.catalog.entries url ↔ e ∈ x₁.world.catalog.entries url ∧ e.reference ≠ sm.reference := by
  intro url s sm stored service start c
  have hquiet : start.Quiet := ⟨rfl, rfl, rfl, rfl, rfl, Registry.keyed_empty.put service⟩
  let w : World := { start.world with taskCount := 1 }
  let t : Task := .start s 0 (.operation (.unregister url))
  have hrun : State.Run s start _ ⟨w, [t], []⟩ := .step .refl (.call _ _ _ (.unregister url))
  obtain ⟨ds, w', q, hw, hx⟩ := Program.exists_works (R := World.Passes) (w := w) (p := unregister url)
    (c := [(0, .go), (0, .go), (0, .go), (5, .go), (0, .go), (0, .go)])
    (b := ([.answered (.remove url) (some service), .answered (.apply url c) (.ok ())], [], some (.success (some c))))
    (fun ds w' x => (Deed.calls ds, w'.catalog.entries url, x)) (by cbv : (Program.work? w _ _).map _ = _) fun v n => ⟨n, rfl⟩
  obtain ⟨hcalls, hentries, hq⟩ : _ ∧ _ ∧ _ := by simpa only [Prod.mk.injEq] using hx
  obtain rfl := Program.eq_done_of_value? hq
  have hstart : State.Stint s (fun r => .done (.unregistered r)) ⟨w, [t], []⟩ (unregister url) [] ⟨w, [] ++ t :: [], []⟩ t _ :=
    .start (List.mem_singleton_self t) rfl
  obtain ⟨t', u, es, hst⟩ := hw.stint hstart
  obtain ⟨_, _, _, _, _, _, x₁, _, _, _, _, x₂, _, _, service', _, _, _, _, _, _, _, _, _, hfree, hheld, _, _, hcleaned, hmem, _⟩ :=
    hrun.unregisters hquiet hst
  obtain rfl : service = service' := by
    have hhead := hcleaned.head?_calls
    rw [List.nil_append, hcalls] at hhead
    cases hhead
    rfl
  refine ⟨_, _, u, es, ds, _, t', hrun, hquiet, hst, hcalls, hentries, x₁, x₂, hfree, hheld, fun e => ?_⟩
  rw [hmem e]
  have hrefs : stored.graph.references = [sm.reference] := by cbv
  have hnamed : (∀ snapshot, service.snapshot = some snapshot → e.reference ∉ snapshot.graph.references) ↔
      e.reference ≠ sm.reference := by
    constructor
    · intro h hr
      exact h stored rfl (by rw [hrefs, hr]; exact List.mem_singleton_self _)
    · rintro hr snapshot ⟨⟩ hm
      rw [hrefs] at hm
      exact hr (List.mem_singleton.1 hm)
  rw [hnamed]

/-- Whether an unregistration comes to success in an event. -/
def Event.endsUnregistration : Event → Bool
  | .ended _ (.unregistered (.success _)) => true
  | _ => false

/-- An unregistration that comes to success may leave entries behind. A submodel was brought to the catalog, then the service had none
any more, and the catalog refused the removal: the empty graph is what the registry has, so there is nothing to remove for it. -/
theorem State.Run.unregisters_leaving_entries :
    let url : AccessUrl := ⟨"http://host"⟩
    let s : Scheduler := ⟨⟨false, 50⟩, false, [], 1000⟩
    let start : State := ⟨World.initial (.ofNat 1), [], []⟩
    let sm : Reference := .root .submodel "sm"
    let refused : Outcome (Option Brought) := .recoverable (some (some ⟨[], [sm]⟩))
      [⟨.warning, some "emitting", "Catalog update failed: Catalog unavailable: offline"⟩]
    ∃ es x id c, State.Run s start es x ∧ .ended id (.unregistered (.success c)) ∈ es ∧
      x.sight url = ⟨[.success (some ⟨[sm], []⟩), refused, .success (some ⟨[], []⟩)], [sm], false, none, none, none⟩ := by
  intro url s start sm refused
  let tick (g : Graph) (cue : Cue) : List Choice := [.call (.synchronize url), .move 0 .go, .move 0 .go, .move 0 .go,
    .move 0 (.fetched (.ok (.ok g))), .move 0 .go, .move 0 .go, .move 0 .go, .move 0 cue]
  let told : List Choice := [.move 0 .go, .move 0 .go, .finish 0]
  let choices : List Choice := [.call (.register (.fresh url)), .move 0 .go, .finish 0] ++
    tick ⟨[.root .submodel "sm" .null]⟩ .go ++ told ++
    tick ⟨[]⟩ (.refused (.unavailable "offline")) ++ [.move 0 .go] ++ told ++
    [.call (.unregister url), .move 0 .go, .move 0 .go, .move 0 .go] ++ told
  obtain ⟨es, x, hrun, h⟩ := State.exists_run (s := s) (x := start)
    (b := (true, ⟨[.success (some ⟨[sm], []⟩), refused, .success (some ⟨[], []⟩)], [sm], false, none, none, none⟩))
    (fun es x => (es.any Event.endsUnregistration, x.sight url))
    (by decide +kernel +zetaReduce : (State.replay s start choices).map _ = _)
  obtain ⟨hany, hsight⟩ := Prod.mk.inj h
  obtain ⟨e, he, hends⟩ := List.any_eq_true.1 hany
  unfold Event.endsUnregistration at hends
  split at hends
  · exact ⟨es, x, _, _, hrun, he, hsight⟩
  · cases hends

end CatalogSync.Engine
