import CatalogSync.Proofs.Engine.Succession

/-!
# What a discovery takes out

A discovery lists the services once and then works off those that are stale, waiting for the guard of each. So whatever it takes out was
found to be stale before: its registry did not advertise the URL, and the entry there had come from it (`State.Run.prunes`). The entry
that it takes out is that one, unless someone else took it out meanwhile and the URL was registered again; then it may be one of
another origin (`State.Run.prunes_foreign_service`).
-/

namespace CatalogSync.Engine

namespace Discovery

variable {registry url : AccessUrl} {urls : List AccessUrl} {ms ms₀ : List Move}

/-! ## What a pass takes out -/

/-- That moves found the entry of a URL to be stale, and did not take it out since. -/
def Found (registry url : AccessUrl) (ms : List Move) : Prop :=
  ∃ early services late headers advertised, ms = early ++ .answered .services services :: late ∧
    .answered (.advertised registry headers) (.ok advertised) ∈ early ∧ url ∈ stale registry advertised services ∧
    ∀ a, .answered (.remove url) a ∉ late

/-- Entries are taken out only where they were found to be stale. -/
def MayAsk (registry : AccessUrl) (ms : List Move) : Request → Prop
  | .remove url => Found registry url ms
  | _ => True

/-- Each URL is listed once. -/
def ListsOnce : (r : Request) → r.Answer → Prop
  | .services, services => (services.map Service.url).Nodup
  | _, _ => True

/-- Asking for what a discovery may ask for. -/
abbrev pruning (registry : AccessUrl) : Calculus (List Move) := asking (MayAsk registry) ListsOnce

/-- That moves come after others, and since then took out entries of the given URLs only. -/
def Since (urls : List AccessUrl) (ms ms' : List Move) : Prop :=
  ∃ new, ms' = ms ++ new ∧ ∀ url a, .answered (.remove url) a ∈ new → url ∈ urls

/-- Nothing was taken out since now. -/
theorem Since.refl (urls : List AccessUrl) (ms : List Move) : Since urls ms ms := ⟨[], (List.append_nil ms).symm, by simp⟩

/-- Further moves may take out further URLs of the list. -/
theorem Since.add {ms' : List Move} (h : Since urls ms ms') {new : List Move}
    (hn : ∀ url a, .answered (.remove url) a ∈ new → url ∈ urls) : Since urls ms (ms' ++ new) := by
  obtain ⟨old, rfl, ho⟩ := h
  refine ⟨old ++ new, List.append_assoc _ _ _, fun url a hm => ?_⟩
  rcases List.mem_append.1 hm with hm | hm
  · exact ho url a hm
  · exact hn url a hm

/-- What was done before was done. -/
theorem Since.mem {ms' : List Move} (h : Since urls ms ms') {m : Move} (hm : m ∈ ms) : m ∈ ms' := by
  obtain ⟨new, rfl, _⟩ := h
  exact List.mem_append_left _ hm

/-- An entry that was found to be stale still counts as such if its URL was left alone since. -/
theorem Found.since {ms' : List Move} (h : Found registry url ms) (hs : Since urls ms ms') (hu : url ∉ urls) :
    Found registry url ms' := by
  obtain ⟨early, services, late, headers, advertised, rfl, ha, hstale, hnot⟩ := h
  obtain ⟨new, rfl, hnew⟩ := hs
  refine ⟨early, services, late ++ new, headers, advertised, by simp, ha, hstale, fun a hm => ?_⟩
  rcases List.mem_append.1 hm with hm | hm
  · exact hnot a hm
  · exact hu (hnew url a hm)

/-- Only removals are restricted. -/
theorem mayAsk_of_ne {r : Request} (hr : ∀ url, r ≠ .remove url) : MayAsk registry ms r := by
  unfold MayAsk
  split
  · exact absurd rfl (hr _)
  · trivial

/-! ## The program of a pass -/

/-- Asking for anything but to take an entry out. -/
theorem meets_request {r : Request} (h : Since urls ms₀ ms) (hr : ∀ url, r ≠ .remove url) :
    (Program.request r).Meets (pruning registry) ms fun _ ms' => Since urls ms₀ ms' := by
  refine ⟨mayAsk_of_ne hr, fun a _ => h.add fun url a' hm => ?_, trivial⟩
  cases List.mem_singleton.1 hm
  exact absurd rfl (hr url)

/-- Building the headers takes no entry out. -/
theorem meets_headers (auth : AuthMethod) (ms : List Move) :
    (auth.headers fun name => Program.request (.resolve name)).Meets (pruning registry) ms fun _ ms' =>
      Since [] ms ms' := by
  refine Program.Meets.seq (Q := fun _ ms' => Since [] ms ms') ?_ fun _ _ h => h
  cases auth with
  | none | basic username password | apiKey name value => exact Since.refl [] ms
  | vault name =>
    refine (meets_request (r := .resolve name) (Since.refl [] ms) nofun).seq ?_
    rintro (_ | value) ms' h
    · exact h
    · exact h

/-- Nor does registering what is newly advertised. -/
theorem meets_registerNew (auth : AuthMethod) (h : Since [] ms₀ ms) :
    (registerNew registry auth urls).Meets (pruning registry) ms fun _ ms' => Since [] ms₀ ms' := by
  induction urls generalizing ms with
  | nil => exact h
  | cons url rest ih =>
    refine (meets_request (r := .register (discovered registry auth url)) h nofun).seq fun isNew ms' h' => ?_
    exact (ih h').seq fun _ _ h'' => h''

/-- Cleaning up at a URL that was found to be stale takes out its entry, and no other. -/
theorem meets_cleanUp (hf : Found registry url ms) (h : Since [url] ms₀ ms) :
    (cleanUp url).Meets (pruning registry) ms fun _ ms' => Since [url] ms₀ ms' := by
  have hremove : (Program.request (.remove url)).Meets (pruning registry) ms fun _ ms' => Since [url] ms₀ ms' := by
    refine ⟨hf, fun a _ => h.add fun url' a' hm => ?_, trivial⟩
    cases List.mem_singleton.1 hm
    exact List.mem_singleton_self url
  refine hremove.seq ?_
  rintro (_ | service) ms' h'
  · exact h'
  · dsimp only
    split
    · exact h'
    · refine (meets_request (r := .apply url (cleanupOf service)) h' nofun).seq ?_
      rintro (e | ⟨⟩) ms'' h''
      · exact h''
      · exact h''

/-- Unregistering a URL that was found to be stale takes out its entry and no other. -/
theorem meets_unregister (hf : Found registry url ms) :
    (unregister url).Meets (pruning registry) ms fun _ ms' => Since [url] ms ms' := by
  intro wait g hw
  have hwait : ∀ url a, .answered (.remove url) a ∉ wait := fun url a hm => nomatch hw _ hm
  have hsince : Since [url] ms (ms ++ wait) := (Since.refl [url] ms).add fun url a hm => absurd hm (hwait url a)
  have hfound : Found registry url (ms ++ wait) :=
    hf.since ((Since.refl [] ms).add fun url a hm => absurd hm (hwait url a)) List.not_mem_nil
  refine (meets_cleanUp hfound hsince).seq fun r ms' h => ?_
  refine (meets_request (r := .unmark g) h nofun).seq fun _ ms'' h' => ?_
  exact (meets_request (r := .wake) h' nofun).seq fun _ _ h'' => h''

/-- Distinct URLs that were found to be stale stay so until it is their turn. -/
theorem meets_unregisterAll (hn : urls.Nodup) (h : ∀ url ∈ urls, Found registry url ms) :
    (unregisterAll urls).Meets (pruning registry) ms fun _ _ => True := by
  induction urls generalizing ms with
  | nil => trivial
  | cons url rest ih =>
    obtain ⟨hnew, hn⟩ := List.nodup_cons.1 hn
    refine (meets_unregister (h url List.mem_cons_self)).seq fun r ms' hs => ?_
    refine ih hn fun url' hu => (h url' (List.mem_cons_of_mem url hu)).since hs fun hm => hnew ?_
    exact List.mem_singleton.1 hm ▸ hu

/-- No URL is stale twice, since none is listed twice. -/
theorem nodup_stale {services : List Service} (h : (services.map Service.url).Nodup) (advertised : List AccessUrl) :
    (stale registry advertised services).Nodup :=
  (h.sublist (List.filter_sublist.map _)).sublist List.filter_sublist

/-- What is stale is not advertised, and was listed with the registry as its origin. -/
theorem mem_stale {advertised : List AccessUrl} {services : List Service} (h : url ∈ stale registry advertised services) :
    url ∉ advertised ∧ ∃ s ∈ services, s.url = url ∧ s.origin = some registry := by
  obtain ⟨hlisted, ha⟩ := List.mem_filter.1 h
  obtain ⟨s, hcame, rfl⟩ := List.mem_map.1 hlisted
  obtain ⟨hs, ho⟩ := List.mem_filter.1 hcame
  exact ⟨by simpa using ha, s, hs, rfl, by simpa using ho⟩

/-- A pass of discovery takes out only what it found to be stale. -/
theorem meets_discover (registry : AccessUrl) (auth : AuthMethod) :
    (discover registry auth).Meets (pruning registry) [] fun _ _ => True := by
  refine (meets_headers auth []).seq ?_
  rintro (e | headers) ms _
  · trivial
  have hadvertised : (Program.request (.advertised registry headers)).Meets (pruning registry) ms fun a ms' =>
      .answered (.advertised registry headers) a ∈ ms' :=
    ⟨trivial, fun a _ => List.mem_append_right _ (List.mem_singleton_self _), trivial⟩
  refine hadvertised.seq ?_
  rintro (e | advertised) ms ha
  · trivial
  refine Program.Meets.seq (Q := fun _ _ => True) ?_ fun _ _ _ => trivial
  refine (meets_registerNew auth (Since.refl [] ms)).seq fun added ms' hs => ?_
  have hservices : (Program.request .services).Meets (pruning registry) ms' fun services ms'' =>
      (services.map Service.url).Nodup ∧ ms'' = ms' ++ [.answered .services services] :=
    ⟨trivial, fun _ hn => ⟨hn, rfl⟩, trivial⟩
  refine hservices.seq ?_
  rintro services _ ⟨hn, rfl⟩
  refine (meets_unregisterAll (nodup_stale hn advertised) fun url hu => ?_).seq fun _ _ _ => trivial
  exact ⟨ms', services, [], headers, advertised, rfl, hs.mem ha, hu, fun a => List.not_mem_nil⟩

end Discovery

open Discovery

variable {s : Scheduler} {x z : State} {t : Task} {ds : List Deed}

/-! ## The entry that is taken out -/

/-- An entry stays one unless it is taken out. -/
theorem State.Run.entry_ne_none {es : List Event} {url : AccessUrl} (h : State.Run s x es z) (hx : x.world.registry.Keyed)
    (hentry : x.world.registry.get? url ≠ none) (hremove : ∀ id a, .moved id (.answered (.remove url) a) ∉ es) :
    z.world.registry.get? url ≠ none := by
  have hall : z.world.registry.Keyed ∧ z.world.registry.get? url ≠ none := by
    refine h.invariant (P := fun y => y.world.registry.Keyed ∧ y.world.registry.get? url ≠ none) ⟨hx, hentry⟩ ?_
    rintro e he v y ⟨hv, hsome⟩ hs
    refine ⟨hv.edit hs.edit, ?_⟩
    obtain ⟨service, hservice⟩ := Option.ne_none_iff_exists'.1 hsome
    cases hs with
    | @move w w' before after past t m p hp =>
      have hkept : ∀ a, m ≠ .answered (.remove url) a := by
        rintro a rfl
        exact hremove t.id a he
      rcases hp.entry hv hservice hkept with ⟨_, _, _, _, hexchanged⟩ | ⟨hsame, _⟩
      · exact ne_of_eq_of_ne hexchanged (Option.some_ne_none _)
      · exact ne_of_eq_of_ne hsame (Option.some_ne_none _)
    | @finish w before after past t report hr => cases report.tick? <;> exact hsome
    | call | begin | cut | pass => exact hsome
  exact hall.2

namespace State.Spell

variable {α : Type} {k : α → Program Report} {u : Task} {p q : Program α} {es : List Event} {url : AccessUrl}

/-- That a URL was without an entry in a state that a spell came through on its way: after some of its events and deeds, and with the
rest of them still to come. -/
def Gone (s : Scheduler) {α : Type} (k : α → Program Report) (x : State) (u : Task) (p : Program α) (es : List Event) (ds : List Deed)
    (z : State) (t : Task) (q : Program α) (url : AccessUrl) : Prop :=
  ∃ es₁ es₂ ds₁ ds₂ y v r, es = es₁ ++ es₂ ∧ ds = ds₁ ++ ds₂ ∧ Spell s k x u p es₁ ds₁ y v r ∧
    y.world.registry.get? url = none ∧ Spell s k y v r es₂ ds₂ z t q

/-- What was gone at some time of a spell was gone at some time of a longer one. -/
theorem Gone.append {es' : List Event} {ds' : List Deed} {y : State} {v : Task} {r : Program α}
    (h : Gone s k x u p es ds y v r url) (h' : Spell s k y v r es' ds' z t q) : Gone s k x u p (es ++ es') (ds ++ ds') z t q url := by
  obtain ⟨es₁, es₂, ds₁, ds₂, y, v, r, rfl, rfl, hy, hnone, hz⟩ := h
  exact ⟨es₁, es₂ ++ es', ds₁, ds₂ ++ ds', y, v, r, List.append_assoc _ _ _, List.append_assoc _ _ _, hy, hnone, hz.append h'⟩

/-- One more step of a spell takes an entry out there and then, or leaves its origin as it is. -/
theorem origin_of_edit {es' : List Event} {ds' : List Deed} {y : State} {v : Task} {r : Program α} {origin : Option AccessUrl}
    (hy : Spell s k x u p es ds y v r) (hstep : Spell s k y v r es' ds' z t q) (hkeyed : y.world.registry.Keyed)
    (he : y.world.registry.Edit z.world.registry)
    (h : Gone s k x u p es ds y v r url ∨ ∃ service, y.world.registry.get? url = some service ∧ service.origin = origin) :
    Gone s k x u p (es ++ es') (ds ++ ds') z t q url ∨
      ∃ service, z.world.registry.get? url = some service ∧ service.origin = origin := by
  rcases h with hgone | ⟨service, hs, rfl⟩
  · exact Or.inl (hgone.append hstep)
  · rcases he.origin hkeyed hs with hnone | ⟨service', hs', ho⟩
    · exact Or.inl ⟨es ++ es', [], ds ++ ds', [], z, t, q, (List.append_nil _).symm, (List.append_nil _).symm, hy.append hstep, hnone,
        .start hstep.mem.1 hstep.mem.2⟩
    · exact Or.inr ⟨service', hs', ho⟩

/-- An entry keeps its origin in a spell, unless it was gone in between. -/
theorem origin (h : Spell s k x u p es ds z t q) (hx : x.world.registry.Keyed) {service : Service}
    (hs : x.world.registry.get? url = some service) :
    Gone s k x u p es ds z t q url ∨ ∃ service', z.world.registry.get? url = some service' ∧ service'.origin = service.origin := by
  induction h with
  | start => exact Or.inr ⟨service, hs, rfl⟩
  | @own w w' before after past t q q' m es ds h hm ih =>
    have hstep : Spell s k _ t q ([] ++ [.moved t.id m]) ([] ++ [⟨w, m, w'⟩]) _ _ q' := .own (.start h.mem.1 h.mem.2) hm
    exact h.origin_of_edit hstep (h.run.registry hx fun _ _ hk he => hk.edit he) hm.edit ih
  | @other y z t q e es ds h hs he ih =>
    have hstep : Spell s k y t q ([] ++ [e]) [] z t q := .other (.start h.mem.1 h.mem.2) hs he
    have horigin := h.origin_of_edit hstep (h.run.registry hx fun _ _ hk he => hk.edit he) hs.edit ih
    rwa [List.append_nil] at horigin

/-- What the task does itself in a spell is among its deeds. -/
theorem mem_moves (h : Spell s k x u p es ds z t q) {m : Move} (hm : .moved u.id m ∈ es) : m ∈ ds.map Deed.move := by
  induction h with
  | start => exact absurd hm List.not_mem_nil
  | own h _ ih =>
    rw [List.map_append]
    rcases List.mem_append.1 hm with hm | hm
    · exact List.mem_append_left _ (ih hm)
    · obtain ⟨_, rfl⟩ := Event.moved.inj (List.mem_singleton.1 hm)
      exact List.mem_append_right _ (List.mem_singleton_self _)
  | other h _ he ih =>
    rcases List.mem_append.1 hm with hm | hm
    · exact ih hm
    · rw [← List.mem_singleton.1 hm, h.id] at he
      exact absurd rfl he

/-- An entry that was there and is gone later, though the task did not take it out, was taken out by another task. -/
theorem Gone.removed (h : Gone s k x u p es ds z t q url) (hx : x.world.registry.Keyed) (hentry : x.world.registry.get? url ≠ none)
    (hds : ∀ a, .answered (.remove url) a ∉ ds.map Deed.move) : ∃ id a, id ≠ u.id ∧ .moved id (.answered (.remove url) a) ∈ es := by
  obtain ⟨es₁, es₂, ds₁, ds₂, y, v, r, rfl, rfl, hy, hnone, _⟩ := h
  by_contra hothers
  refine hy.run.entry_ne_none hx hentry (fun id a hm => hothers ⟨id, a, ?_, List.mem_append_left _ hm⟩) hnone
  rintro rfl
  rw [List.map_append] at hds
  exact hds a (List.mem_append_left _ (hy.mem_moves hm))

/-- Whatever lists services in a spell lists each URL once. -/
theorem given (h : Spell s k x u p es ds z t q) (hx : x.world.registry.Distinct) : ∀ m ∈ ds.map Deed.move, m.Given ListsOnce := by
  intro m hm
  obtain ⟨d, hd, rfl⟩ := List.mem_map.1 hm
  obtain ⟨before, after, hds⟩ := List.append_of_mem hd
  obtain ⟨_, _, y, v, q₀, _, _, q₁, _, hy, hw, hstep, _⟩ := h.of_deed hds
  have hdistinct : d.before.registry.Distinct := hw ▸ hy.run.registry hx fun _ _ hk he => hk.edit he
  generalize d.move = m at hstep
  cases m with
  | answered r a =>
    cases r with
    | services => exact hstep.services_eq.1 ▸ hdistinct.nodup_getAll
    | _ => trivial
  | _ => trivial

end State.Spell

/-! ## Runs -/

/-- Whatever a discovery takes out of the registry was found to be stale before: the URL was not among those that the registry
advertised, and when the services were listed after that, its entry had the registry as its origin. The entry taken out has that
origin too, unless the URL was without an entry in a state that the discovery came through between the listing and the removal, because
another task had taken it out. -/
theorem State.Run.prunes {permits : Permits} {es₀ es : List Event} (h : State.Run s ⟨World.initial permits, [], []⟩ es₀ x)
    {registry : AccessUrl} {auth : AuthMethod} {k : Except SyncError DiscoveryChanges → Program Report} {u : Task}
    {q : Program (Except SyncError DiscoveryChanges)} (hst : State.Spell s k x u (discover registry auth) es ds z t q)
    {before after : List Deed} {d : Deed} (hds : ds = before ++ d :: after) {url : AccessUrl} {service : Service}
    (hd : d.move = .answered (.remove url) (some service)) :
    d.before.registry.get? url = some service ∧
    ∃ es₁ es₂ es₃ early late services x₁ u₁ q₁ x₂ u₂ q₂ y v r headers advertised found,
      es = es₁ ++ .moved u.id (.answered .services services) :: (es₂ ++ es₃) ∧
      before = early ++ ⟨x₁.world, .answered .services services, x₂.world⟩ :: late ∧
      State.Spell s k x u (discover registry auth) es₁ early x₁ u₁ q₁ ∧
      State.Step s x₁ (.moved u.id (.answered .services services)) x₂ ∧
      State.Spell s k x₂ u₂ q₂ es₂ late y v r ∧ y.world = d.before ∧ State.Spell s k y v r es₃ (d :: after) z t q ∧
      .answered (.advertised registry headers) (.ok advertised) ∈ early.map Deed.move ∧ url ∉ advertised ∧
      x₁.world.registry.get? url = some found ∧ found.origin = some registry ∧
      (∀ a, .answered (.remove url) a ∉ late.map Deed.move) ∧
      (service.origin = some registry ∨
        State.Spell.Gone s k x₂ u₂ q₂ es₂ late y v r url ∧
        ∃ id a, id ≠ u.id ∧ .moved id (.answered (.remove url) a) ∈ es₂) := by
  have hx : x.world.registry.Distinct := h.registry Registry.distinct_empty fun _ _ hk he => hk.edit he
  have hkeyed : x.world.registry.Keyed := h.registry Registry.keyed_empty fun _ _ hk he => hk.edit he
  -- the spell up to the removal, and the rest of it
  obtain ⟨es₀, es₃, y, v, r, y', v', _, rfl, hy, hw, hstep, _, _, hdeed, hrest⟩ := hst.of_deed hds
  have hentry : d.before.registry.get? url = some service := (Program.Step.entry_eq (hd ▸ hstep)).symm
  have hsplit : ds.map Deed.move = before.map Deed.move ++ d.move :: after.map Deed.move := by
    rw [hds, List.map_append, List.map_cons]
  have hfound : Found registry url ([] ++ before.map Deed.move) :=
    (meets_discover registry auth).trace (r := .remove url) hst.trace (hst.given hx) hsplit (by rw [hd]; rfl)
  obtain ⟨early₀, services, late₀, headers, advertised, hbefore, ha, hstale, hnot⟩ := hfound
  obtain ⟨early, rest, rfl, rfl, hlisted⟩ := List.map_eq_append_iff.1 (List.nil_append _ ▸ hbefore)
  obtain ⟨listing, late, rfl, hlisting, rfl⟩ := List.map_eq_cons_iff.1 hlisted
  obtain ⟨hadvertised, found, hmem, rfl, ho⟩ := mem_stale hstale
  -- the part up to the removal splits once more, at the listing
  obtain ⟨es₁, es₂, x₁, u₁, q₁, x₂, u₂, q₂, rfl, hx₁, hw₁, hlist, hs₁, hw₂, hdeed₁, hx₂⟩ := hy.of_deed rfl
  obtain ⟨w₁, _, w₂⟩ := listing
  subst hlisting hw₁ hw₂
  obtain ⟨hlisting, hsame⟩ : services = x₁.world.registry.getAll ∧ x₂.world = x₁.world := hlist.services_eq
  have hdistinct : x₁.world.registry.Distinct := hx₁.run.registry hx fun _ _ hk he => hk.edit he
  have hkeyed₂ : x₂.world.registry.Keyed := (hx₁.run.step hs₁).registry hkeyed fun _ _ hk he => hk.edit he
  have hget : x₁.world.registry.get? found.url = some found := hdistinct.get?_of_mem_getAll (hlisting ▸ hmem)
  have hget₂ : x₂.world.registry.get? found.url = some found := by rwa [hsame]
  refine ⟨hentry, es₁, es₂, _, early, late, _, x₁, u₁, q₁, x₂, u₂, q₂, y, v, r, headers, advertised, found, ?_, rfl, hx₁, hs₁, hx₂, hw,
    hdeed.append hrest, ha, hadvertised, hget, ho, hnot, ?_⟩
  · rw [List.append_assoc, List.cons_append]
    rfl
  rcases hx₂.origin hkeyed₂ hget₂ with hgone | ⟨service', hs', ho'⟩
  · obtain ⟨id, a, hid, hm⟩ := hgone.removed hkeyed₂ (hget₂ ▸ Option.some_ne_none found) hnot
    exact Or.inr ⟨hgone, id, a, fun h => hid (h.trans (hdeed₁.id.trans hx₁.id).symm), hm⟩
  · rw [hw, hentry] at hs'
    obtain rfl := Option.some.inj hs'
    exact Or.inl (ho'.trans ho)

/-- A service that came from a registry is taken out once the registry does not advertise it any more. -/
theorem State.Run.prunes_unadvertised :
    let url : AccessUrl := ⟨"http://host"⟩
    let registry : AccessUrl := ⟨"http://registry"⟩
    let s : Scheduler := ⟨⟨false, 50⟩, false, [], 1000⟩
    let service : Service := (Service.fresh url).withOrigin registry
    ∃ es x u es' ds z t changes before d after, State.Run s ⟨World.initial (.ofNat 1), [], []⟩ es x ∧
      State.Spell s (fun r => .done (.discovered r)) x u (discover registry .none) es' ds z t (.done (.ok changes)) ∧
      changes.toAdd = [] ∧ changes.toRemove = [url] ∧ z.world.registry.get? url = none ∧ ds = before ++ d :: after ∧
      d.move = .answered (.remove url) (some service) ∧ d.before.registry.get? url = some service ∧
      ∃ early late services x₁ x₂ headers advertised found,
        before = early ++ ⟨State.world x₁, .answered .services services, State.world x₂⟩ :: late ∧
        .answered (.advertised registry headers) (.ok advertised) ∈ early.map Deed.move ∧ url ∉ advertised ∧
        x₁.world.registry.get? url = some found ∧ found.origin = some registry := by
  intro url registry s service
  let w : World := { World.initial (.ofNat 1) with taskCount := 2, registry := ⟨[(url, service)]⟩ }
  let t : Task := .start s 1 (.operation (.discover registry .none))
  let first : Task := ⟨0, .operation (.register service), [.answered (.register service) true], none, .done (.registered true)⟩
  have hreplay : State.replay s ⟨World.initial (.ofNat 1), [], []⟩ [.call (.register service), .move 0 .go, .finish 0,
      .call (.discover registry .none)] = some (_, ⟨w, [t], [first]⟩) := rfl
  have hrun : State.Run s ⟨World.initial (.ofNat 1), [], []⟩ _ ⟨w, [t], [first]⟩ := State.run_of_replay hreplay
  obtain ⟨ds, w', q, hw, hx⟩ := Program.exists_works (R := World.Passes) (w := w) (p := discover registry .none)
    (c := [(0, .advertised (.ok [])), (0, .go), (0, .go), (0, .go), (0, .go), (0, .go), (0, .go)])
    (b := (some (.answered (.remove url) (some service)), none, some (.ok ⟨[], [url]⟩)))
    (fun ds w' x => (ds[4]?.map Deed.move, w'.registry.get? url, x)) (by cbv : (Program.work? w _ _).map _ = _) fun v n => ⟨n, rfl⟩
  obtain ⟨hd, hentry, hq⟩ : _ ∧ _ ∧ _ := by simpa only [Prod.mk.injEq] using hx
  obtain rfl := Program.eq_done_of_value? hq
  obtain ⟨d, hd, hmove⟩ := Option.map_eq_some_iff.1 hd
  have hstart : State.Stint s (fun r => .done (.discovered r)) ⟨w, [t], [first]⟩ (discover registry .none) []
      ⟨w, [] ++ t :: [], [first]⟩ t _ := .start (List.mem_singleton_self t) rfl
  obtain ⟨t', u, es', hst⟩ := hw.stint hstart
  obtain ⟨hbefore, _, _, _, early, late, services, x₁, _, _, x₂, _, _, _, _, _, headers, advertised, found, _, hlisting, _, _, _, _, _,
    ha, hu, hget, ho, _⟩ := hrun.prunes hst (eq_take_cons_drop hd) hmove
  exact ⟨_, _, u, es', ds, _, t', _, _, d, _, hrun, hst, rfl, rfl, hentry, eq_take_cons_drop hd, hmove, hbefore, early, late, services,
    x₁, x₂, headers, advertised, found, hlisting, ha, hu, hget, ho⟩

/-- Whether a task is a discovery that takes out the entry of a URL next. -/
def Task.prunesNext (registry url : AccessUrl) (t : Task) : Bool :=
  match t.origin, t.program with
  | .operation (.discover r .none), .ask (.remove u) _ => decide (r = registry ∧ u = url)
  | _, _ => false

/-- A discovery may take out a service that was registered by a caller. It finds two services stale and waits for the tick of the first;
meanwhile a caller unregisters the second one and registers it anew, without an origin; and then the discovery gets to it. -/
theorem State.Run.prunes_foreign_service :
    let two : AccessUrl := ⟨"http://two"⟩
    let registry : AccessUrl := ⟨"http://registry"⟩
    let s : Scheduler := ⟨⟨false, 50⟩, false, [], 1000⟩
    ∃ es x t service y, State.Run s ⟨World.initial (.ofNat 1), [], []⟩ es x ∧ t ∈ x.tasks ∧
      t.origin = .operation (.discover registry .none) ∧ x.world.registry.get? two = some service ∧ service.origin = none ∧
      State.Step s x (.moved t.id (.answered (.remove two) (some service))) y ∧ y.world.registry.get? two = none := by
  intro two registry s
  let one : AccessUrl := ⟨"http://one"⟩
  -- both services come from the registry
  let found : List Choice := [.call (.discover registry .none), .move 0 (.advertised (.ok [one, two])), .move 0 .go, .move 0 .go,
    .move 0 .go, .finish 0]
  -- the registry advertises neither of them any more, while a tick of the first is under way
  let stale : List Choice := [.call (.synchronize one), .move 0 .go, .call (.discover registry .none),
    .move 1 (.advertised (.ok [])), .move 1 .go, .move 1 .go, .move 1 .go]
  let renewed : List Choice := [.call (.unregister two), .move 2 .go, .move 2 .go, .move 2 .go, .move 2 .go, .move 2 .go, .finish 2,
    .call (.register (.fresh two)), .move 2 .go, .finish 2]
  let ticked : List Choice := [.move 0 .go, .move 0 .go, .move 0 (.fetched (.ok (.ok ⟨[]⟩))), .move 0 .go, .move 0 .go, .move 0 .go,
    .move 0 .go, .move 0 .go, .finish 0]
  -- the first is unregistered, and the guard of the second is free
  let reached : List Choice := [.move 0 .go, .move 0 .go, .move 0 .go, .move 0 .go, .move 0 .go, .move 0 .go, .move 0 .go, .move 0 .go]
  obtain ⟨es, x, hrun, h⟩ := State.exists_run (s := s) (x := ⟨World.initial (.ofNat 1), [], []⟩)
    (b := (true, true, none)) (fun es x => (x.tasks.any (Task.prunesNext registry two), (x.sight two).registered, (x.sight two).origin))
    (by cbv : (State.replay s _ (found ++ stale ++ renewed ++ ticked ++ reached)).map _ = _)
  obtain ⟨hany, hregistered, horigin⟩ : _ ∧ _ ∧ _ := by simpa only [Prod.mk.injEq] using h
  obtain ⟨service, hs⟩ := Option.isSome_iff_exists.1 hregistered
  have hnone : service.origin = none := by simpa [State.sight, hs] using horigin
  obtain ⟨t, ht, hnext⟩ := List.any_eq_true.1 hany
  obtain ⟨w, tasks, past⟩ := x
  obtain ⟨before, after, rfl⟩ := List.append_of_mem ht
  unfold Task.prunesNext at hnext
  split at hnext
  · rename_i _ _ next hto htp
    obtain ⟨rfl, rfl⟩ := of_decide_eq_true hnext
    have hstep : Program.Step w t.program (.answered (.remove two) (some service))
        { w with registry := (w.registry.remove two).2 } (next (some service)) := by
      rw [htp, ← hs]
      exact .ask (.world rfl)
    exact ⟨es, _, t, service, _, hrun, ht, hto, hs, hnone, .move hstep, by simp [Registry.get?_remove]⟩
  · cases hnext

end CatalogSync.Engine
