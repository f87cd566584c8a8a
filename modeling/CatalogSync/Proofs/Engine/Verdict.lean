import CatalogSync.Proofs.Engine.Steadiness

/-!
# Verdicts

Where clients and the secret store always answer the same, the catalog takes what it is given, and nothing takes too long, what a tick
comes to and what it makes of its site follows from what the site shows when the tick begins (`Fixed.verdict`), whatever goes on at
other sites meanwhile (`Program.Works.runTick_verdict`). The times of snapshots and their identities are not part of what a site shows.
-/

namespace CatalogSync

/-- A service without its snapshot, and the graph of that. -/
def Service.shown (s : Service) : Service × Option Graph :=
  ({ s with snapshot := none, lastSynced := none }, s.snapshot.map Snapshot.graph)

namespace Engine

/-- What a site shows, whenever its snapshot was stored and whichever object that is. -/
structure View where
  entry : Option (Service × Option Graph)
  shelf : Shelf

/-- What a site shows. -/
def Site.view (σ : Site) : View := ⟨σ.entry.map Service.shown, σ.shelf⟩

/-- What clients and the secret store answer, whenever they are asked. -/
structure Fixed where
  fetch : AccessUrl → Headers → Except FetchError Graph
  secret : String → Option String

namespace Fixed

/-- That a move goes as the answers are fixed, where the catalog refuses nothing and nothing is given up on. -/
def Allows (f : Fixed) : Move → Prop
  | .answered (.fetch url headers) a => a = .ok (f.fetch url headers)
  | .answered (.resolve name) a => a = f.secret name
  | .answered (.apply _ _) a => a = .ok ()
  | .expired _ => False
  | _ => True

/-- The headers of a request. -/
def headers (f : Fixed) (auth : AuthMethod) : Except SyncError Headers := Id.run (auth.headers fun name => pure (f.secret name))

/-- What a tick of a URL comes to, and what its site shows then, given what it shows when the tick begins. -/
def verdict (f : Fixed) (onlySubmodels : Bool) (url : AccessUrl) (v : View) : TickResult × View :=
  match v.entry with
  | none => (Tick.notRegistered url, v)
  | some (service, old) =>
    match f.headers service.auth with
    | .error e => (.recoverable (some none) [⟨.warning, some Phase.fetching.name, e.message⟩], v)
    | .ok headers =>
      match f.fetch url headers with
      | .error e => (.recoverable (some none) [⟨.warning, some Phase.fetching.name, (SyncError.fetch e).message⟩], v)
      | .ok graph =>
        match Graph.diff old (Tick.keptGraph onlySubmodels graph) with
        | .error e => (.fatal [⟨.fatal, some Phase.diffing.name, (SyncError.model e).message⟩], v)
        | .ok c => (.success (some c), ⟨some (service, some (Tick.keptGraph onlySubmodels graph)), v.shelf.apply c⟩)

variable {f : Fixed}

/-- The secret store answers as is fixed. -/
theorem headersWith_eq {auth : AuthMethod} {secret : Option String} (h : ∀ m ∈ Tick.lookups auth secret, f.Allows m) :
    Tick.headersWith auth secret = f.headers auth := by
  cases auth with
  | vault name =>
    obtain rfl : secret = f.secret name := h _ (List.mem_singleton_self _)
    rfl
  | none | basic | apiKey => rfl

end Fixed

namespace Tick

variable {f : Fixed} {onlySubmodels : Bool} {s entry : Service} {calls : List Move}

/-- The client gave the graph that it always gives. -/
theorem Fetching.fetch_eq {graph : Graph} (h : Fetching s graph calls) (hm : ∀ m ∈ calls, f.Allows m) :
    ∃ headers, f.headers s.auth = .ok headers ∧ f.fetch s.url headers = .ok graph := by
  cases h with
  | @fetched secret headers h =>
    have hlookups : ∀ m ∈ lookups s.auth secret, f.Allows m := fun m h' => hm m (List.mem_append_left _ h')
    have hfetch : Except.ok (.ok graph) = Except.ok (f.fetch s.url headers) := hm _ (List.mem_append_right _ (List.mem_singleton_self _))
    exact ⟨headers, f.headersWith_eq hlookups ▸ h, (Except.ok.inj hfetch).symm⟩

/-- A tick that does not end early comes to what its site says. -/
theorem Account.verdict {r : TickResult} (h : Account onlySubmodels s calls entry (.ok r)) (hm : ∀ m ∈ calls, f.Allows m)
    (shelf : Shelf) : f.verdict onlySubmodels s.url ⟨some s.shown, shelf⟩ =
      (r, ⟨some entry.shown, (calls.filterMap (Move.applied s.url)).foldl Shelf.apply shelf⟩) := by
  have hnone : ∀ {calls : List Move}, (∀ m ∈ calls, m.commits = false) → calls.filterMap (Move.applied s.url) = [] :=
    fun hc => List.filterMap_eq_nil_iff.2 fun m hm => Move.applied_of_commits_eq_false (hc m hm) _
  cases h with
  | unfetched h =>
    cases h with
    | unresolved h =>
      rw [hnone (uncommitted_lookups _ _)]
      rw [f.headersWith_eq hm] at h
      simp only [Fixed.verdict, Service.shown, h]
      rfl
    | @refused secret headers h e =>
      have hlookups : ∀ m ∈ lookups s.auth secret, f.Allows m := fun m h' => hm m (List.mem_append_left _ h')
      have hfetch : Except.ok (.error e) = Except.ok (f.fetch s.url headers) :=
        hm _ (List.mem_append_right _ (List.mem_singleton_self _))
      rw [hnone (uncommitted_concat (uncommitted_lookups _ _) rfl)]
      rw [f.headersWith_eq hlookups] at h
      simp only [Fixed.verdict, Service.shown, h, (Except.ok.inj hfetch).symm]
      rfl
  | repeating h hd hr =>
    obtain ⟨headers, hheaders, hfetch⟩ := h.fetch_eq hm
    rw [hnone h.uncommitted]
    simp only [Fixed.verdict, Service.shown, hheaders, hfetch, hd]
    rfl
  | @stored fetching emission graph c id time r h hd he =>
    obtain ⟨headers, hheaders, hfetch⟩ := h.fetch_eq fun m h' => hm m (List.mem_append_left _ h')
    have happly : r = .success (some c) ∧ (emission.filterMap (Move.applied s.url)).foldl Shelf.apply shelf = shelf.apply c := by
      cases he with
      | nothing hc => exact ⟨rfl, (Shelf.apply_of_isEmpty shelf hc).symm⟩
      | applied => exact ⟨rfl, by simp⟩
      | refused hc e =>
        have hok : Except.error e = Except.ok () := hm _ (List.mem_append_right _ (List.mem_cons_of_mem _ (List.mem_singleton_self _)))
        nomatch hok
    obtain ⟨rfl, happly⟩ := happly
    rw [List.filterMap_append, hnone h.uncommitted, List.filterMap_cons, Move.applied_swap, List.nil_append, happly]
    simp only [Fixed.verdict, Service.shown, hheaders, hfetch, hd]
    rfl

end Tick

/-- Requests that do not write leave the sites as they are. -/
theorem Answers.site {w w' : World} {r : Request} {a : r.Answer} (h : Answers w r a w') (hw : (Move.answered r a).writes = false) :
    w'.site = w.site := by
  obtain ⟨hregistry, hcatalog⟩ := h.idle hw
  funext url
  simp [World.site, hregistry, hcatalog]

/-- That others leave the site of a URL as it is. -/
def World.Same (url : AccessUrl) (w w' : World) : Prop := w'.site url = w.site url

theorem keepsEntry_same (url : AccessUrl) : KeepsEntry (World.Same url) url := by
  intro v v' h s hs
  have hentry : v'.registry.get? url = v.registry.get? url := congrArg Site.entry h
  rwa [hentry]

namespace Program.Works

variable {f : Fixed} {y : Synchronizer} {g : Guard} {w w' : World} {ds : List Deed} {result : Except String TickResult}

/-- What a tick does with the guard of its service, while nobody else changes the site, comes to what the site shows. -/
theorem attempt_verdict (h : (y.attempt g).Works (World.Same g.url) w ds w' (.done result))
    (hk : ∀ s, (w.site g.url).entry = some s → s.url = g.url) (hm : ∀ d ∈ ds, f.Allows d.move) :
    result = .ok (f.verdict y.onlySubmodels g.url (w.site g.url).view).1 ∧
      (w'.site g.url).view = (f.verdict y.onlySubmodels g.url (w.site g.url).view).2 := by
  cases hs : w.registry.get? g.url with
  | none =>
    obtain ⟨v, a, v', ds', rfl, hv, ha, hrest⟩ := of_ask (r := .service g.url) h
    have hsite := ha.site rfl
    cases ha with
    | world ha =>
      obtain ⟨rfl, rfl⟩ := Prod.mk.inj (Option.some.inj ha)
      have hentry : v.registry.get? g.url = w.registry.get? g.url := congrArg Site.entry hv
      rw [hentry, hs] at hrest
      obtain ⟨_, rfl, rfl⟩ := of_done hrest
      have hview : w.site g.url = ⟨none, w.catalog.entries g.url⟩ := by rw [World.site, hs]
      rw [hv, hview]
      exact ⟨rfl, rfl⟩
  | some s =>
    have hurl : s.url = g.url := hk s hs
    have hmeets := y.meets_attempt (A := fun _ => True) (R := World.Same g.url) hurl (fun _ _ => trivial) (keepsEntry_same g.url)
      (l := ⟨[], w⟩) ⟨hs, rfl⟩
    obtain ⟨r, rfl, calls, entry, haccount, hat⟩ := (hmeets.works h).1
    have hshelf := h.shelf fun _ _ hr => congrArg Site.shelf hr
    have hmoves : ∀ m ∈ ds.map Deed.move, f.Allows m := by
      intro m hm'
      obtain ⟨d, hd, rfl⟩ := List.mem_map.1 hm'
      exact hm d hd
    -- the tick does not end early
    obtain ⟨hexpired, hcrashed⟩ := (y.explained_attempt g).ends h.trace fun m _ => by cases m <;> trivial
    rcases r with (_ | reason) | r
    · obtain ⟨q, hq⟩ := hexpired rfl
      exact (hmoves _ hq).elim
    · obtain ⟨⟨url, headers, hq⟩, _⟩ := hcrashed reason rfl
      have hok : Except.error reason = Except.ok (f.fetch url headers) := hmoves _ hq
      cases hok
    · have hcalls : ∀ m ∈ calls, f.Allows m := by
        rw [← hat.calls]
        exact fun m hm' => hmoves m (List.mem_filter.1 hm').1
      have hverdict := haccount.verdict hcalls (w.catalog.entries s.url)
      have hentry := hat.entry
      have happlied := hat.calls
      rw [hurl] at hverdict hentry
      simp only [List.nil_append] at happlied hentry
      have hview : (w.site g.url).view = ⟨some s.shown, w.catalog.entries g.url⟩ := by simp [Site.view, World.site, hs]
      have hview' : (w'.site g.url).view = ⟨some entry.shown, w'.catalog.entries g.url⟩ := by simp [Site.view, World.site, hentry]
      rw [hview, hview', hverdict, hshelf, happlied]
      exact ⟨rfl, rfl⟩

/-- Giving the guard back changes no site. -/
theorem of_release {R : World → World → Prop} {α : Type} {a b : α} (h : (do Program.release g; return a).Works R w ds w' (.done b))
    {url : AccessUrl} (hR : ∀ v v', R v v' → World.Same url v v') : b = a ∧ World.Same url w w' := by
  obtain ⟨v, _, v', ds', rfl, hv, ha, hrest⟩ := of_ask (r := .unmark g) h
  obtain ⟨u, _, u', ds'', rfl, hu, hb, hdone⟩ := of_ask (r := .wake) hrest
  obtain ⟨_, rfl, rfl⟩ := of_done hdone
  have hsite : w'.site url = u.site url := congrFun (hb.site rfl) url
  have hsite' : v'.site url = v.site url := congrFun (ha.site rfl) url
  exact ⟨rfl, hsite.trans ((hR _ _ hu).trans (hsite'.trans (hR _ _ hv)))⟩

/-- So does a whole tick. -/
theorem runTick_verdict (h : (y.runTick g).Works (World.Same g.url) w ds w' (.done result))
    (hk : ∀ s, (w.site g.url).entry = some s → s.url = g.url) (hm : ∀ d ∈ ds, f.Allows d.move) :
    result = .ok (f.verdict y.onlySubmodels g.url (w.site g.url).view).1 ∧
      (w'.site g.url).view = (f.verdict y.onlySubmodels g.url (w.site g.url).view).2 := by
  rw [Synchronizer.runTick_eq] at h
  obtain ⟨ds₁, ds₂, v, r, rfl, hattempt, hrest⟩ := of_bind h
  obtain ⟨rfl, hsame⟩ := hrest.of_release fun _ _ hr => hr
  obtain ⟨hresult, hview⟩ := hattempt.attempt_verdict hk fun d hd => hm d (List.mem_append_left _ hd)
  exact ⟨hresult, (congrArg Site.view hsame).trans hview⟩

end Program.Works

end Engine

end CatalogSync
