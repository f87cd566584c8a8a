import CatalogSync.Proofs.Engine.Alone
import CatalogSync.Proofs.Engine.Pruning
import CatalogSync.Proofs.Engine.Removal

/-!
# What a discovery comes to

A discovery that nobody disturbs brings the registered services in line with what its registry advertises, and reports exactly what it
did; a second one finds nothing left to do (`discover_reconciles`). It is a loop that registers and a loop that unregisters, with a
listing of the services in between. Each of them changes the registry by a set of changes (`Log.Changed`), and the sets add up.
-/

namespace CatalogSync.Engine

/-! ## What is registered and unregistered -/

namespace Move

/-- The URL under which a move registered a service, if it did. -/
def registered? : Move → Option AccessUrl
  | answered (.register s) true => some s.url
  | _ => none

/-- The URL whose entry a move took out of the registry, if it did. -/
def unregistered? : Move → Option AccessUrl
  | answered (.remove url) (some _) => some url
  | _ => none

end Move

/-- The services that deeds registered and unregistered, in order. -/
def Deed.changes (ds : List Deed) : DiscoveryChanges :=
  ⟨ds.filterMap fun d => d.move.registered?, ds.filterMap fun d => d.move.unregistered?⟩

/-- The changes of more deeds. -/
theorem Deed.changes_append (ds ds' : List Deed) :
    Deed.changes (ds ++ ds') = ((Deed.changes ds).addAll (Deed.changes ds').toAdd).removeAll (Deed.changes ds').toRemove := by
  simp [Deed.changes, ChangeSet.addAll, ChangeSet.removeAll]

/-- Whether a move registers or unregisters a service. -/
def Move.Changes (m : Move) : Prop := m.registered?.isSome ∨ m.unregistered?.isSome

/-- More deeds, which neither register nor unregister a service. -/
theorem Deed.changes_append_of_idle {ds ds' : List Deed} (h : ∀ d ∈ ds', ¬d.move.Changes) :
    Deed.changes (ds ++ ds') = Deed.changes ds := by
  have hadd : ds'.filterMap (fun d => d.move.registered?) = [] :=
    List.filterMap_eq_nil_iff.2 fun d hd => by simpa using not_or.1 (h d hd) |>.1
  have hremove : ds'.filterMap (fun d => d.move.unregistered?) = [] :=
    List.filterMap_eq_nil_iff.2 fun d hd => by simpa using not_or.1 (h d hd) |>.2
  simp [changes, hadd, hremove]

/-- A move that is about no request changes nothing. -/
theorem Move.not_changes_of_request? {m : Move} (h : m.request? = none) : ¬m.Changes := by
  cases m with
  | answered | expired => nomatch h
  | listened | took | yielded | woken => simp [Changes, registered?, unregistered?]

/-- An answer to another request than those to register and to unregister changes nothing. -/
theorem Move.not_changes_of_ne {r : Request} {a : r.Answer} (hregister : ∀ s, r ≠ .register s) (hremove : ∀ url, r ≠ .remove url) :
    ¬(Move.answered r a).Changes := by
  cases r with
  | register s => exact absurd rfl (hregister s)
  | remove url => exact absurd rfl (hremove url)
  | _ => simp [Changes, registered?, unregistered?]

/-- One log leads to another by registering and unregistering services, and it changes nothing else of the registry. The first argument
is the service that is registered under a URL. -/
structure Log.Changed (new : AccessUrl → Service) (l : Log) (c : DiscoveryChanges) (l' : Log) : Prop where
  deeds : ∃ ds, l'.deeds = l.deeds ++ ds ∧ Deed.changes ds = c
  entries : ∀ url, l'.world.registry.get? url =
    if url ∈ c.toRemove then none else if url ∈ c.toAdd then some (new url) else l.world.registry.get? url
  distinct : l.world.registry.Distinct → l'.world.registry.Distinct

namespace Log.Changed

variable {new : AccessUrl → Service} {l l' l'' : Log} {c : DiscoveryChanges}

theorem refl (new : AccessUrl → Service) (l : Log) : l.Changed new .empty l :=
  ⟨⟨[], (List.append_nil _).symm, rfl⟩, fun _ => by simp [ChangeSet.empty], fun h => h⟩

/-- Services are registered first, and others are unregistered then. -/
theorem trans {added gone : List AccessUrl} {c' : DiscoveryChanges} (h : l.Changed new ⟨added, gone⟩ l') (h' : l'.Changed new c' l'')
    (hd : gone = [] ∨ c'.toAdd = []) : l.Changed new ⟨added ++ c'.toAdd, gone ++ c'.toRemove⟩ l'' := by
  obtain ⟨ds, hds, hc⟩ := h.deeds
  obtain ⟨ds', hds', hc'⟩ := h'.deeds
  refine ⟨⟨ds ++ ds', by rw [hds', hds, List.append_assoc], ?_⟩, fun url => ?_, fun hl => h'.distinct (h.distinct hl)⟩
  · rw [Deed.changes_append, hc, hc']
    rfl
  · rw [h'.entries, h.entries]
    rcases hd with rfl | hd
    · by_cases hr : url ∈ c'.toRemove
      · simp [hr]
      · by_cases ha : url ∈ c'.toAdd <;> simp [hr, ha]
    · by_cases hr : url ∈ c'.toRemove
      · simp [hr]
      · by_cases hg : url ∈ gone <;> simp [hr, hd, hg]

/-- More deeds, which leave the registry as it is. -/
theorem idle (h : l.Changed new c l') {ds : List Deed} {w : World} (hr : w.registry = l'.world.registry)
    (hds : ∀ d ∈ ds, ¬d.move.Changes) : l.Changed new c ⟨l'.deeds ++ ds, w⟩ := by
  obtain ⟨ds₀, hds₀, hc⟩ := h.deeds
  refine ⟨⟨ds₀ ++ ds, by rw [hds₀, List.append_assoc], by rw [Deed.changes_append_of_idle hds, hc]⟩, fun url => ?_, fun hl => ?_⟩
  · show w.registry.get? url = _
    rw [hr]
    exact h.entries url
  · show w.registry.Distinct
    rw [hr]
    exact h.distinct hl

end Log.Changed

/-! ## Reconciled registries -/

/-- What a discovery through a registry makes of the registered services, given the URLs that are advertised. -/
structure Discovery.Reconciles (registry : AccessUrl) (auth : AuthMethod) (advertised : List AccessUrl) (before after : Registry)
    (c : DiscoveryChanges) : Prop where
  /-- The advertised URLs without an entry are added. -/
  mem_toAdd : ∀ url, url ∈ c.toAdd ↔ url ∈ advertised ∧ before.get? url = none
  /-- They are added once each, in the order in which they were advertised first. -/
  toAdd_ordered : c.toAdd.Pairwise fun a b => advertised.idxOf a < advertised.idxOf b
  /-- The services that came from the registry and are not advertised are removed. -/
  mem_toRemove : ∀ url, url ∈ c.toRemove ↔ url ∉ advertised ∧ ∃ s, before.get? url = some s ∧ s.origin = some registry
  /-- They are removed once each, ordered by URL. -/
  toRemove_ordered : c.toRemove.Pairwise fun a b => compare a b = .lt
  entries : ∀ url, after.get? url =
    if url ∈ c.toRemove then none else if url ∈ c.toAdd then some ⟨url, auth, none, none, some registry⟩ else before.get? url

namespace Discovery

/-- Every advertised URL has an entry, and every entry that came from the registry is of an advertised URL. -/
structure Settled (registry : AccessUrl) (advertised : List AccessUrl) (r : Registry) : Prop where
  registered : ∀ url ∈ advertised, r.get? url ≠ none
  advertised : ∀ url s, r.get? url = some s → s.origin = some registry → url ∈ advertised

/-- Two registries have entries of the same URLs and origins. What ticks store may differ. -/
def SameOrigins (r r' : Registry) : Prop := ∀ url, (r'.get? url).map Service.origin = (r.get? url).map Service.origin

variable {N : (r : Request) → r.Answer → Prop} {free : Prop} {registry url : AccessUrl} {auth : AuthMethod}
  {urls advertised : List AccessUrl} {new : AccessUrl → Service} {l : Log}

/-! ## Services that are new -/

/-- Registering a service that a registry advertises. -/
theorem alone_register :
    (Program.request (.register (discovered registry auth url))).Meets (alone N free) l fun isNew l' =>
      isNew = (l.world.registry.get? url).isNone ∧ l'.world.inFlight = l.world.inFlight ∧
      l.Changed (discovered registry auth) ⟨if isNew then [url] else [], []⟩ l' := by
  refine Program.meets_request_alone rfl fun v a v' hv _ ha => ?_
  cases ha with
  | world ha =>
    rw [World.perform_register] at ha
    obtain ⟨rfl, rfl⟩ := Prod.mk.inj (Option.some.inj ha)
    have hnew : (v.registry.put (discovered registry auth url)).1 = (l.world.registry.get? url).isNone :=
      (Registry.fst_put _ _).trans (by rw [hv.registry]; rfl)
    rw [hnew]
    refine ⟨rfl, hv.inFlight, ⟨_, rfl, ?_⟩, fun url' => ?_, fun hl => (hv.registry ▸ hl).edit (.put _)⟩
    · cases (l.world.registry.get? url).isNone <;> rfl
    · show (v.registry.put _).2.get? url' = _
      rw [Registry.get?_put, hv.registry]
      by_cases hu : url' = url
      · subst hu
        cases h : l.world.registry.get? url' <;> simp [discovered, Service.fresh, Service.withAuth, Service.withOrigin]
      · have hne : url' ≠ (discovered registry auth url).url := hu
        cases h : (l.world.registry.get? url).isNone <;> simp [hu, hne]

/-- The URLs that had no entry are registered, in order. -/
theorem alone_registerNew (hn : urls.Nodup) :
    (registerNew registry auth urls).Meets (alone N free) l fun added l' =>
      added = urls.filter (fun url => (l.world.registry.get? url).isNone) ∧ l'.world.inFlight = l.world.inFlight ∧
      l.Changed (discovered registry auth) ⟨added, []⟩ l' := by
  induction urls generalizing l with
  | nil => exact ⟨rfl, rfl, .refl _ l⟩
  | cons url rest ih =>
    obtain ⟨hnew, hn⟩ := List.nodup_cons.1 hn
    refine alone_register.seq ?_
    rintro isNew l₁ ⟨rfl, hf₁, h₁⟩
    refine (ih hn).seq ?_
    rintro added l₂ ⟨rfl, hf₂, h₂⟩
    -- what was registered now is not among the URLs still to come
    have hrest : rest.filter (fun url => (l₁.world.registry.get? url).isNone) =
        rest.filter fun url => (l.world.registry.get? url).isNone := by
      refine List.filter_congr fun url' hu => ?_
      have hne : url' ≠ url := fun he => hnew (he ▸ hu)
      rw [h₁.entries]
      cases (l.world.registry.get? url).isNone <;> simp [hne]
    rw [hrest] at h₂ ⊢
    refine ⟨?_, hf₂.trans hf₁, ?_⟩
    · cases h : (l.world.registry.get? url).isNone <;> simp [h]
    · have h₁₂ := h₁.trans h₂ (Or.inl rfl)
      cases h : (l.world.registry.get? url).isNone <;> simpa [h] using h₁₂

/-! ## Services that are stale -/

/-- Asking for something that has nothing to do with the registry nor with guards. -/
theorem alone_request {r : Request} {l₀ : Log} {c : DiscoveryChanges} (hl : l₀.Changed new c l) (hr : r.prompt = true)
    (hregister : ∀ s, r ≠ .register s) (hremove : ∀ url, r ≠ .remove url)
    (hw : ∀ v a v', Answers v r a v' → v'.registry = v.registry ∧ v'.inFlight = v.inFlight) :
    (Program.request r).Meets (alone N free) l fun a l' =>
      N r a ∧ l'.world.inFlight = l.world.inFlight ∧ l₀.Changed new c l' := by
  refine Program.meets_request_alone hr fun v a v' hv hn ha => ?_
  obtain ⟨hregistry, hf⟩ := hw v a v' ha
  refine ⟨hn, hf.trans hv.inFlight, hl.idle (hregistry.trans hv.registry) fun d hd => ?_⟩
  obtain rfl := List.mem_singleton.1 hd
  exact Move.not_changes_of_ne hregister hremove

/-- Cleaning up takes the entry of the URL out. -/
theorem alone_cleanUp (new : AccessUrl → Service) (hl : l.world.registry.contains url = true) :
    (cleanUp url).Meets (alone N free) l fun _ l' =>
      l'.world.inFlight = l.world.inFlight ∧ l.Changed new ⟨[], [url]⟩ l' := by
  have hremove : (Program.request (.remove url)).Meets (alone N free) l fun _ l' =>
      l'.world.inFlight = l.world.inFlight ∧ l.Changed new ⟨[], [url]⟩ l' := by
    refine Program.meets_request_alone rfl fun v a v' hv _ ha => ?_
    cases ha with
    | world ha =>
      rw [World.perform_remove, hv.registry] at ha
      obtain ⟨rfl, rfl⟩ := Prod.mk.inj (Option.some.inj ha)
      obtain ⟨service, hs⟩ := Option.isSome_iff_exists.1 hl
      rw [hs]
      refine ⟨hv.inFlight, ⟨_, rfl, rfl⟩, fun url' => ?_, fun hd => hd.edit (.remove url)⟩
      show (l.world.registry.remove url).2.get? url' = _
      simp [Registry.get?_remove]
  refine hremove.seq ?_
  rintro (_ | service) l₁ ⟨hf, h⟩
  · exact ⟨hf, h⟩
  · dsimp only
    split
    · exact ⟨hf, h⟩
    · refine (alone_request (r := .apply url (cleanupOf service)) h rfl nofun nofun fun v a v' ha => ?_).seq ?_
      · cases ha with
        | world ha => nomatch ha
        | applied | refused => exact ⟨rfl, rfl⟩
      · rintro (e | ⟨⟩) l₂ ⟨_, hf₂, h₂⟩ <;> exact ⟨hf₂.trans hf, h₂⟩

/-- Giving a guard back frees its URL. -/
theorem alone_unmark {l₀ : Log} {c : DiscoveryChanges} (g : Guard) (hl : l₀.Changed new c l) :
    (Program.request (.unmark g)).Meets (alone N free) l fun _ l' =>
      l'.world.inFlight = l.world.inFlight.filter (· ≠ g.url) ∧ l₀.Changed new c l' := by
  refine Program.meets_request_alone rfl fun v a v' hv _ ha => ?_
  cases ha with
  | world ha =>
    cases ha
    refine ⟨?_, hl.idle (hv.registry : (v.unmark g).registry = _) fun d hd => ?_⟩
    · show v.inFlight.filter (· ≠ g.url) = _
      rw [hv.inFlight]
    · obtain rfl := List.mem_singleton.1 hd
      exact Move.not_changes_of_ne nofun nofun

/-- A service is unregistered once nobody else is at work on it. -/
theorem alone_unregister (new : AccessUrl → Service) (hfree : free → url ∉ l.world.inFlight) (hl : l.world.registry.contains url = true) :
    (unregister url).Meets (alone N free) l fun _ l' =>
      l'.world.inFlight = l.world.inFlight ∧ l.Changed new ⟨[], [url]⟩ l' := by
  rw [unregister_eq]
  refine ⟨hfree, fun wait v g v' hw hv hg => ?_⟩
  obtain ⟨hu, hgu, hv'⟩ := World.tryMark_eq_some hg
  have hregistry : v'.registry = l.world.registry := by rw [hv', ← hv.registry]
  have hmarked : v'.inFlight = url :: l.world.inFlight := by rw [hv', ← hv.inFlight]
  rw [hv.inFlight] at hu
  rw [List.append_assoc]
  -- neither the wait nor the taking changes anything
  have hheld : l.Changed new .empty ⟨l.deeds ++ (wait ++ [⟨v, .took g, v'⟩]), v'⟩ := by
    refine (Log.Changed.refl new l).idle hregistry fun d hd => ?_
    rcases List.mem_append.1 hd with hd | hd
    · exact Move.not_changes_of_request? (hw d hd)
    · obtain rfl := List.mem_singleton.1 hd
      exact Move.not_changes_of_request? rfl
  refine (alone_cleanUp new (by rwa [hregistry])).seq fun r l₁ h₁ => ?_
  have hcleaned : l.Changed new ⟨[], [url]⟩ l₁ := hheld.trans h₁.2 (Or.inl rfl)
  have hothers : l.world.inFlight.filter (· ≠ url) = l.world.inFlight :=
    List.filter_eq_self.2 fun url' hu' => by simpa using fun he : url' = url => hu (he ▸ hu')
  refine Program.Meets.bind ((alone_unmark g hcleaned).seq ?_)
  rintro ⟨⟩ l₂ ⟨hf, h₂⟩
  rw [h₁.1, hgu] at hf
  rw [hmarked, List.filter_cons_of_neg (by simp), hothers] at hf
  refine (alone_request (r := .wake) h₂ rfl nofun nofun fun v a v' ha => ?_).mono ?_
  · cases ha with
    | world ha =>
      cases ha
      exact ⟨rfl, rfl⟩
  · rintro a l₃ ⟨_, hf₃, h₃⟩
    exact ⟨hf₃.trans hf, h₃⟩

/-- Entries are taken out one after the other. -/
theorem alone_unregisterAll (new : AccessUrl → Service) (hn : urls.Nodup) (hfree : free → l.world.inFlight = [])
    (hl : ∀ url ∈ urls, l.world.registry.contains url = true) :
    (unregisterAll urls).Meets (alone N free) l fun _ l' =>
      l'.world.inFlight = l.world.inFlight ∧ l.Changed new ⟨[], urls⟩ l' := by
  induction urls generalizing l with
  | nil => exact ⟨rfl, .refl _ l⟩
  | cons url rest ih =>
    obtain ⟨hnew, hn⟩ := List.nodup_cons.1 hn
    have hurl : free → url ∉ l.world.inFlight := fun hf => by simp [hfree hf]
    refine (alone_unregister new hurl (hl url List.mem_cons_self)).seq ?_
    rintro r l₁ ⟨hf₁, h₁⟩
    refine (ih hn (fun hf => hf₁.trans (hfree hf)) fun url' hu => ?_).mono ?_
    · have hne : url' ≠ url := fun he => hnew (he ▸ hu)
      rw [Registry.contains, h₁.entries]
      simpa [hne, Registry.contains] using hl url' (List.mem_cons_of_mem url hu)
    · rintro ⟨⟩ l₂ ⟨hf₂, h₂⟩
      exact ⟨hf₂.trans hf₁, h₁.trans h₂ (Or.inr rfl)⟩

/-! ## The order of what is added -/

/-- The places of what passes a test are in the order of their places in the list. -/
theorem idxOf_lt_of_filter {test : AccessUrl → Bool} {a b : AccessUrl} (ha : test a = true) (hb : test b = true)
    (h : (urls.filter test).idxOf a < (urls.filter test).idxOf b) : urls.idxOf a < urls.idxOf b := by
  induction urls with
  | nil => exact absurd h (Nat.lt_irrefl _)
  | cons x rest ih =>
    by_cases hx : test x = true
    · rw [List.filter_cons_of_pos hx] at h
      by_cases hxa : x = a
      · subst hxa
        by_cases hxb : x = b
        · simp [hxb] at h
        · simp [List.idxOf_cons_ne _ hxb]
      · by_cases hxb : x = b
        · subst hxb
          simp at h
        · rw [List.idxOf_cons_ne _ hxa, List.idxOf_cons_ne _ hxb] at h ⊢
          exact Nat.succ_lt_succ (ih (Nat.lt_of_succ_lt_succ h))
    · rw [List.filter_cons_of_neg hx] at h
      have hne : ∀ {url}, test url = true → x ≠ url := fun hu he => hx (he ▸ hu)
      rw [List.idxOf_cons_ne _ (hne ha), List.idxOf_cons_ne _ (hne hb)]
      exact Nat.succ_lt_succ (ih h)

/-- A list without repetitions is in the order of the first places. -/
theorem pairwise_eraseDups (urls : List AccessUrl) : urls.eraseDups.Pairwise fun a b => urls.idxOf a < urls.idxOf b := by
  match urls with
  | [] => exact .nil
  | url :: rest =>
    have ih := pairwise_eraseDups (rest.filter fun url' => !url' == url)
    rw [List.eraseDups_cons]
    have hne : ∀ url' ∈ (rest.filter fun url' => !url' == url).eraseDups, url' ≠ url := by
      intro url' hu
      simpa using (List.mem_filter.1 (List.mem_eraseDups.1 hu)).2
    refine List.pairwise_cons.2 ⟨fun url' hu => ?_, ih.imp_of_mem fun {a b} ha hb hab => ?_⟩
    · rw [List.idxOf_cons_self, List.idxOf_cons_ne _ (hne url' hu).symm]
      exact Nat.succ_pos _
    · rw [List.idxOf_cons_ne _ (hne a ha).symm, List.idxOf_cons_ne _ (hne b hb).symm]
      exact Nat.succ_lt_succ (idxOf_lt_of_filter (by simpa using hne a ha) (by simpa using hne b hb) hab)
termination_by urls.length
decreasing_by exact Nat.lt_succ_of_le (List.length_filter_le _ _)

/-- What is stale is what has an entry that came from the registry, and is not advertised. -/
theorem mem_stale_iff {r : Registry} (hr : r.Distinct) :
    url ∈ stale registry advertised r.getAll ↔ url ∉ advertised ∧ ∃ s, r.get? url = some s ∧ s.origin = some registry := by
  constructor
  · intro h
    obtain ⟨hu, s, hs, rfl, ho⟩ := mem_stale h
    exact ⟨hu, s, hr.get?_of_mem_getAll hs, ho⟩
  · rintro ⟨hu, s, hs, ho⟩
    obtain rfl := hr.url_eq hs
    refine List.mem_filter.2 ⟨List.mem_map_of_mem (List.mem_filter.2 ⟨hr.mem_getAll_iff.2 hs, by simpa using ho⟩), by simpa using hu⟩

/-! ## A pass that nobody disturbs -/

/-- Registering what is new and unregistering what is stale then brings the services in line. -/
theorem alone_reconcile (hd : l.world.registry.Distinct) (hfree : free → l.world.inFlight = []) :
    (reconcile registry auth advertised).Meets (alone N free) l fun c l' =>
      l'.world.inFlight = l.world.inFlight ∧ l.Changed (discovered registry auth) c l' ∧
      Reconciles registry auth advertised l.world.registry l'.world.registry c := by
  have hordered : advertised.eraseDups.Pairwise fun a b => advertised.idxOf a < advertised.idxOf b := pairwise_eraseDups advertised
  have honce : advertised.eraseDups.Nodup := by
    refine hordered.imp ?_
    rintro a _ hab rfl
    exact Nat.lt_irrefl _ hab
  refine (alone_registerNew honce).seq ?_
  rintro added l₁ ⟨hadded, hf₁, h₁⟩
  -- nobody else registers anything, so the listing is what was there and what was added
  have hservices : (Program.request .services).Meets (alone N free) l₁ fun services l₂ =>
      services = l₁.world.registry.getAll ∧ l₂.world.inFlight = l.world.inFlight ∧
      l₂.world.registry = l₁.world.registry ∧ l.Changed (discovered registry auth) ⟨added, []⟩ l₂ := by
    refine Program.meets_request_alone rfl fun v a v' hv _ ha => ?_
    cases ha with
    | world ha =>
      cases ha
      refine ⟨by rw [hv.registry], hv.inFlight.trans hf₁, hv.registry, h₁.idle hv.registry fun d hd => ?_⟩
      obtain rfl := List.mem_singleton.1 hd
      exact Move.not_changes_of_ne nofun nofun
  refine hservices.seq ?_
  rintro services l₂ ⟨rfl, hf₂, hr₂, h₂⟩
  have hd₁ : l₁.world.registry.Distinct := h₁.distinct hd
  have hmem : ∀ url, url ∈ added ↔ url ∈ advertised ∧ l.world.registry.get? url = none := by
    intro url
    rw [hadded, List.mem_filter, List.mem_eraseDups, Option.isNone_iff_eq_none]
  -- what was just added is advertised, and so it is not stale
  have hgone : ∀ url, url ∈ stale registry advertised l₁.world.registry.getAll ↔
      url ∉ advertised ∧ ∃ s, l.world.registry.get? url = some s ∧ s.origin = some registry := by
    intro url
    rw [mem_stale_iff hd₁, h₁.entries]
    refine and_congr_right fun hu => ?_
    have hnew : url ∉ added := fun ha => hu ((hmem url).1 ha).1
    simp [hnew]
  have hsorted : (stale registry advertised l₁.world.registry.getAll).Pairwise fun a b => compare a b = .lt :=
    (hd₁.sorted_getAll.sublist (List.filter_sublist.map _)).sublist List.filter_sublist
  refine (alone_unregisterAll (discovered registry auth) (nodup_stale hd₁.nodup_getAll advertised)
    (fun hf => hf₂.trans (hfree hf)) fun url hu => ?_).seq ?_
  · obtain ⟨_, s, hs, _⟩ := (mem_stale_iff hd₁).1 hu
    rw [hr₂, Registry.contains, hs]
    rfl
  · rintro ⟨⟩ l₃ ⟨hf₃, h₃⟩
    have h : l.Changed (discovered registry auth) ⟨added, stale registry advertised l₁.world.registry.getAll⟩ l₃ := by
      simpa using h₂.trans h₃ (Or.inl rfl)
    exact ⟨hf₃.trans hf₂, h, hmem, hadded ▸ hordered.sublist List.filter_sublist, hgone, hsorted, h.entries⟩

section

variable {before after : Registry} {c : DiscoveryChanges}

/-! ## Passes that change nothing -/

/-- Reconciling settles the registry. -/
theorem Reconciles.settled (h : Reconciles registry auth advertised before after c) : Settled registry advertised after := by
  refine ⟨fun url hu => ?_, fun url s hs ho => ?_⟩
  · have hkept : url ∉ c.toRemove := fun hr => ((h.mem_toRemove url).1 hr).1 hu
    rw [h.entries, if_neg hkept]
    split
    · exact Option.some_ne_none _
    · rename_i ha
      exact fun hnone => ha ((h.mem_toAdd url).2 ⟨hu, hnone⟩)
  · rw [h.entries] at hs
    split at hs
    · nomatch hs
    · rename_i hkept
      split at hs
      · rename_i ha
        exact ((h.mem_toAdd url).1 ha).1
      · exact Classical.not_not.1 fun hu => hkept ((h.mem_toRemove url).2 ⟨hu, s, hs, ho⟩)

/-- What is registered in one registry is in the other. -/
theorem SameOrigins.get?_eq_none_iff {r r' : Registry} (h : SameOrigins r r') : r'.get? url = none ↔ r.get? url = none := by
  rw [← Option.map_eq_none_iff (f := Service.origin), h url, Option.map_eq_none_iff]

/-- An entry of one registry has one with its origin in the other. -/
theorem SameOrigins.of_some {r r' : Registry} (h : SameOrigins r r') {s : Service} (hs : r'.get? url = some s) :
    ∃ s', r.get? url = some s' ∧ s'.origin = s.origin := by
  have ho := h url
  rw [hs] at ho
  exact Option.map_eq_some_iff.1 ho.symm

/-- Whether a registry is settled is a matter of URLs and origins. -/
theorem Settled.of_sameOrigins {r r' : Registry} (h : Settled registry advertised r) (hr : SameOrigins r r') :
    Settled registry advertised r' := by
  refine ⟨fun url hu hnone => h.registered url hu (hr.get?_eq_none_iff.1 hnone), fun url s hs ho => ?_⟩
  obtain ⟨s', hs', hso⟩ := hr.of_some hs
  exact h.advertised url s' hs' (hso.trans ho)

/-- Where everything is settled there is nothing to do. -/
theorem Settled.eq_empty (h : Settled registry advertised before) (hc : Reconciles registry auth advertised before after c) :
    c = .empty ∧ ∀ url, after.get? url = before.get? url := by
  have hadd : c.toAdd = [] := List.eq_nil_iff_forall_not_mem.2 fun url hu => by
    obtain ⟨ha, hnone⟩ := (hc.mem_toAdd url).1 hu
    exact h.registered url ha hnone
  have hremove : c.toRemove = [] := List.eq_nil_iff_forall_not_mem.2 fun url hu => by
    obtain ⟨ha, s, hs, ho⟩ := (hc.mem_toRemove url).1 hu
    exact ha (h.advertised url s hs ho)
  obtain ⟨toAdd, toRemove⟩ := c
  subst hadd hremove
  exact ⟨rfl, fun url => by simpa using hc.entries url⟩

end

/-! ## Passes that are hindered -/

/-- Why a discovery comes to an error, given the answers that there are. -/
inductive Hindered (N : (r : Request) → r.Answer → Prop) (registry : AccessUrl) : AuthMethod → SyncError → Prop where
  /-- The secret store does not have the key. -/
  | secret {name : String} (h : N (.resolve name) none) : Hindered N registry (.vault name) (.secretNotFound name)
  /-- The URLs that are advertised cannot be fetched. -/
  | fetch {auth : AuthMethod} {headers : Headers} {e : FetchError} (h : N (.advertised registry headers) (.error e)) :
    Hindered N registry auth (.fetch e)

/-- Asking for something that is outside of the world. -/
theorem alone_lookup {r : Request} {l₀ : Log} {c : DiscoveryChanges} (hl : l₀.Changed new c l) (hr : r.prompt = true)
    (hregister : ∀ s, r ≠ .register s) (hremove : ∀ url, r ≠ .remove url) (hw : ∀ v a v', Answers v r a v' → v' = v) :
    (Program.request r).Meets (alone N free) l fun a l' => N r a ∧ l.world.Passes l'.world ∧ l₀.Changed new c l' := by
  refine Program.meets_request_alone hr fun v a v' hv hn ha => ?_
  obtain rfl := hw v a v' ha
  refine ⟨hn, hv, hl.idle hv.registry fun d hd => ?_⟩
  obtain rfl := List.mem_singleton.1 hd
  exact Move.not_changes_of_ne hregister hremove

/-- Building headers changes nothing, and fails only for a secret that is missing. -/
theorem alone_headers (registry : AccessUrl) (new : AccessUrl → Service) :
    (auth.headers fun name => Program.request (.resolve name)).Meets (alone N free) l fun r l' =>
      l.world.Passes l'.world ∧ l.Changed new .empty l' ∧ ∀ e, r = .error e → Hindered N registry auth e := by
  refine Program.Meets.bind ?_
  cases auth with
  | none | basic username password | apiKey name value => exact ⟨.refl _, .refl new l, nofun⟩
  | vault name =>
    refine (alone_lookup (r := .resolve name) (.refl new l) rfl nofun nofun fun v a v' ha => ?_).seq ?_
    · cases ha with
      | world ha =>
        cases ha
        rfl
      | resolved => rfl
    · rintro (_ | value) l' ⟨hn, hw, hl⟩
      · refine ⟨hw, hl, ?_⟩
        rintro _ ⟨⟩
        exact .secret hn
      · exact ⟨hw, hl, nofun⟩

/-- A pass alone reconciles the registry with what is advertised; if it is hindered, it changes nothing. -/
theorem alone_discover (registry : AccessUrl) (auth : AuthMethod) (hd : l.world.registry.Distinct) (hfree : free → l.world.inFlight = []) :
    (discover registry auth).Meets (alone N free) l fun r l' => l'.world.inFlight = l.world.inFlight ∧ match r with
      | .error e => Hindered N registry auth e ∧ l.world.Passes l'.world ∧ l.Changed (discovered registry auth) .empty l'
      | .ok c => l.Changed (discovered registry auth) c l' ∧ ∃ headers advertised,
        N (.advertised registry headers) (.ok advertised) ∧
        Reconciles registry auth advertised l.world.registry l'.world.registry c := by
  refine (alone_headers registry (discovered registry auth)).seq ?_
  rintro (e | headers) l₁ ⟨hw₁, h₁, he⟩
  · exact ⟨hw₁.inFlight, he e rfl, hw₁, h₁⟩
  refine (alone_lookup (r := .advertised registry headers) h₁ rfl nofun nofun fun v a v' ha => ?_).seq ?_
  · cases ha with
    | world ha => nomatch ha
    | advertised => rfl
  rintro (e | advertised) l₂ ⟨hn, hw₂, h₂⟩
  · exact ⟨(hw₁.trans hw₂).inFlight, .fetch hn, hw₁.trans hw₂, h₂⟩
  have hw := hw₁.trans hw₂
  refine (alone_reconcile (hw.registry ▸ hd) fun hf => hw.inFlight.trans (hfree hf)).seq ?_
  rintro c l₃ ⟨hf, h₃, hc⟩
  rw [hw.registry] at hc
  exact ⟨hf.trans hw.inFlight, h₂.trans h₃ (Or.inl rfl), headers, advertised, hn, hc⟩

/-! ## Nobody waits at the start -/

/-- Building headers waits for no guard. -/
theorem awake_headers : (auth.headers fun name => Program.request (.resolve name)).Awake := by
  refine Program.Awake.bind ?_ fun _ => trivial
  cases auth with
  | none | basic username password | apiKey name value => trivial
  | vault name => exact fun a => by cases a <;> trivial

/-- Nor does registering what is advertised. -/
theorem awake_registerNew : (registerNew registry auth urls).Awake := by
  induction urls with
  | nil => trivial
  | cons url rest ih => exact fun _ => ih.bind fun _ => trivial

/-- Nor does cleaning up. -/
theorem awake_cleanUp : (cleanUp url).Awake := by
  refine (Program.awake_request (.remove url)).bind fun entry => ?_
  cases entry with
  | none => trivial
  | some service =>
    dsimp only
    split
    · trivial
    · exact fun a => by cases a <;> trivial

/-- An unregistration that has yet to begin is not waiting. -/
theorem awake_unregister : (unregister url).Awake := by
  rw [unregister_eq]
  refine ⟨nofun, fun g => awake_cleanUp.bind fun r => ?_⟩
  exact fun _ _ => trivial

/-- Nor are several of them. -/
theorem awake_unregisterAll : (unregisterAll urls).Awake := by
  induction urls with
  | nil => trivial
  | cons url rest ih => exact awake_unregister.bind fun _ => ih

/-- Nor is a pass of discovery. -/
theorem awake_discover : (discover registry auth).Awake := by
  refine awake_headers.bind fun headers => ?_
  cases headers with
  | error e => trivial
  | ok headers =>
    refine (Program.awake_request (.advertised registry headers)).bind fun advertised => ?_
    cases advertised with
    | error e => trivial
    | ok advertised =>
      refine Program.Awake.bind ?_ fun _ => trivial
      refine awake_registerNew.bind fun added => (Program.awake_request .services).bind fun services => ?_
      exact awake_unregisterAll.bind fun _ => trivial

end Discovery

open Discovery

/-! ## What a pass comes to -/

/-- The URLs that a registry is found to advertise in a move. -/
def Move.advertised? (registry : AccessUrl) : Move → Option (List AccessUrl)
  | answered (.advertised r _) (.ok urls) => if r = registry then some urls else none
  | _ => none

/-- That a registry advertises a list of URLs whenever deeds fetch what it advertises. -/
def Deed.Advertise (registry : AccessUrl) (advertised : List AccessUrl) (ds : List Deed) : Prop :=
  ∀ urls ∈ ds.filterMap fun d => d.move.advertised? registry, urls = advertised

/-- The answers in deeds. -/
def Deed.Answered (ds : List Deed) (r : Request) (a : r.Answer) : Prop := .answered r a ∈ ds.map Deed.move

/-- What was answered in deeds is an answer given in them. -/
theorem Deed.given_answered {ds : List Deed} : ∀ d ∈ ds, d.move.Given (Deed.Answered ds) := by
  intro d hd
  have hm : d.move ∈ ds.map Deed.move := List.mem_map_of_mem hd
  generalize d.move = m at hm
  cases m with
  | answered r a => exact hm
  | _ => trivial

section

variable {registry : AccessUrl} {auth : AuthMethod} {advertised : List AccessUrl} {w w' : World} {ds : List Deed}
  {c : DiscoveryChanges}

/-- What a discovery that nobody disturbs did where it comes to changes. -/
theorem discover_ok (hd : w.registry.Distinct) (h : (discover registry auth).Works World.Passes w ds w' (.done (.ok c)))
    (ha : Deed.Advertise registry advertised ds) :
    Reconciles registry auth advertised w.registry w'.registry c ∧ Deed.changes ds = c ∧ w'.registry.Distinct := by
  have hmeets : (discover registry auth).Meets (alone (Deed.Answered ds) (w.inFlight = [])) ⟨[], w⟩ _ :=
    alone_discover registry auth hd fun hf => hf
  obtain ⟨_, hc, headers, urls, hn, hr⟩ := (hmeets.works_alone h Deed.given_answered).1
  have hlisted : urls ∈ ds.filterMap fun d => d.move.advertised? registry := by
    obtain ⟨d, hd, hm⟩ := List.mem_map.1 hn
    exact List.mem_filterMap.2 ⟨d, hd, by rw [hm]; exact if_pos rfl⟩
  obtain rfl := ha urls hlisted
  obtain ⟨ds', hds, hchanges⟩ := hc.deeds
  obtain rfl : ds = ds' := by simpa using hds
  exact ⟨hr, hchanges, hc.distinct hd⟩

end

/-- A discovery that nobody disturbs is never stuck. It comes to an error only if a key is missing or the registry cannot be asked, and
then it has changed nothing. Else it brings the registered services in line with what the registry advertises, and reports just what it
did; and another discovery finds nothing to do, as long as the registry advertises the same and no service has come or gone. -/
theorem discover_reconciles {w : World} (hd : w.registry.Distinct) (registry : AccessUrl) (auth : AuthMethod) :
    (w.inFlight = [] → ∀ ds v q, (discover registry auth).Works World.Passes w ds v q →
      (∃ r, q = .done r) ∨ ∃ m v' q', Program.Step v q m v' q') ∧
    (∀ ds w' e, (discover registry auth).Works World.Passes w ds w' (.done (.error e)) →
      Hindered (Deed.Answered ds) registry auth e ∧ Deed.changes ds = .empty ∧ w'.registry = w.registry ∧ w'.catalog = w.catalog) ∧
    ∀ advertised ds w' c, (discover registry auth).Works World.Passes w ds w' (.done (.ok c)) →
      Deed.Advertise registry advertised ds →
      Reconciles registry auth advertised w.registry w'.registry c ∧ Deed.changes ds = c ∧ w'.registry.Distinct ∧
      ∀ w₁ ds₁ w₂ c', w₁.registry.Distinct → SameOrigins w'.registry w₁.registry →
        (discover registry auth).Works World.Passes w₁ ds₁ w₂ (.done (.ok c')) → Deed.Advertise registry advertised ds₁ →
        c' = .empty ∧ Deed.changes ds₁ = .empty ∧ ∀ url, w₂.registry.get? url = w₁.registry.get? url := by
  refine ⟨fun hfree ds v q h => ?_, fun ds w' e h => ?_, fun advertised ds w' c h ha => ?_⟩
  · have hmeets : (discover registry auth).Meets (alone (Deed.Answered ds) (w.inFlight = [])) ⟨[], w⟩ _ :=
      alone_discover registry auth hd fun hf => hf
    exact hmeets.never_stuck awake_discover hfree h Deed.given_answered
  · have hmeets : (discover registry auth).Meets (alone (Deed.Answered ds) (w.inFlight = [])) ⟨[], w⟩ _ :=
      alone_discover registry auth hd fun hf => hf
    obtain ⟨_, hh, hw, hc⟩ := (hmeets.works_alone h Deed.given_answered).1
    obtain ⟨ds', hds, hchanges⟩ := hc.deeds
    obtain rfl : ds = ds' := by simpa using hds
    exact ⟨hh, hchanges, hw.registry, hw.catalog⟩
  · obtain ⟨hr, hchanges, hd'⟩ := discover_ok hd h ha
    refine ⟨hr, hchanges, hd', fun w₁ ds₁ w₂ c' hd₁ ho h₁ ha₁ => ?_⟩
    obtain ⟨hr₁, hchanges₁, _⟩ := discover_ok hd₁ h₁ ha₁
    obtain ⟨rfl, hsame⟩ := (hr.settled.of_sameOrigins ho).eq_empty hr₁
    exact ⟨rfl, hchanges₁, hsame⟩

/-- A registry advertises a new URL twice, and a service that came from it is not advertised any more. -/
theorem discover_reconciles_repeated_url :
    let registry : AccessUrl := ⟨"http://registry"⟩
    let service : Service := (Service.fresh ⟨"http://host"⟩).withOrigin registry
    let new : AccessUrl := ⟨"http://new"⟩
    let w : World := { World.initial (.ofNat 1) with registry := ⟨[(service.url, service)]⟩ }
    let w₁ : World := { World.initial (.ofNat 1) with registry := ⟨[(new, (Service.fresh new).withOrigin registry)]⟩ }
    let c : DiscoveryChanges := ⟨[new], [service.url]⟩
    ∃ ds w' ds₁ w₂, (discover registry .none).Works World.Passes w ds w' (.done (.ok c)) ∧ w'.registry = w₁.registry ∧
      (discover registry .none).Works World.Passes w₁ ds₁ w₂ (.done (.ok .empty)) ∧
      Deed.Advertise registry [new, new] ds ∧ Deed.Advertise registry [new, new] ds₁ ∧
      Reconciles registry .none [new, new] w.registry w'.registry c ∧ Deed.changes ds = c ∧ Deed.changes ds₁ = .empty := by
  intro registry service new w w₁ c
  have hd : w.registry.Distinct := Registry.distinct_empty.edit (.put service)
  obtain ⟨ds, w', q, hw, hx⟩ := Program.exists_works (R := World.Passes) (w := w) (p := discover registry .none)
    (c := [(0, .advertised (.ok [new, new])), (0, .go), (0, .go), (3, .go), (0, .go), (0, .go), (0, .go), (1, .go)])
    (b := ([[new, new]], w₁.registry, some (.ok c)))
    (fun ds w' x => (ds.filterMap fun d => d.move.advertised? registry, w'.registry, x))
    (by cbv : (Program.work? w _ _).map _ = _) fun v n => ⟨n, rfl⟩
  obtain ⟨hlists, hr, hq⟩ : _ ∧ _ ∧ _ := by simpa only [Prod.mk.injEq] using hx
  obtain rfl := Program.eq_done_of_value? hq
  obtain ⟨ds₁, w₂, q₁, hw₁, hx₁⟩ := Program.exists_works (R := World.Passes) (w := w₁) (p := discover registry .none)
    (c := [(7, .advertised (.ok [new, new])), (0, .go), (0, .go)]) (b := ([[new, new]], some (.ok .empty)))
    (fun ds _ x => (ds.filterMap fun d => d.move.advertised? registry, x))
    (by cbv : (Program.work? w₁ _ _).map _ = _) fun v n => ⟨n, rfl⟩
  obtain ⟨hlists₁, hq₁⟩ : _ ∧ _ := by simpa only [Prod.mk.injEq] using hx₁
  obtain rfl := Program.eq_done_of_value? hq₁
  have ha : Deed.Advertise registry [new, new] ds := by simp [Deed.Advertise, hlists]
  have ha₁ : Deed.Advertise registry [new, new] ds₁ := by simp [Deed.Advertise, hlists₁]
  obtain ⟨_, _, hok⟩ := discover_reconciles hd registry .none
  obtain ⟨hc, hchanges, hd', hagain⟩ := hok [new, new] ds w' c hw ha
  obtain ⟨_, hnothing, _⟩ := hagain w₁ ds₁ w₂ _ (hr ▸ hd') (fun url => by rw [hr]) hw₁ ha₁
  exact ⟨ds, w', ds₁, w₂, hw, hr, hw₁, ha, ha₁, hc, hchanges, hnothing⟩

end CatalogSync.Engine
