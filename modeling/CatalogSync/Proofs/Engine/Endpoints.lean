import CatalogSync.Engine.Round
import CatalogSync.Proofs.Engine.Alone
import CatalogSync.Proofs.Registry

/-!
# Endpoints of settings

The services of settings are checked and registered in turn, and then the registries are checked. What stands in the registry
already is not taken back when an endpoint turns out to be unusable: the services before it stay registered. Setting up endpoints
is registering these services one by one (`Scheduler.withEndpoints_eq`), whatever others do in between.
-/

namespace CatalogSync

/-! ## Services of endpoints -/

/-- The entries after services were registered one by one: the first of a URL counts, unless there was an entry. -/
theorem Registry.get?_foldl_put (services : List Service) (r : Registry) (url : AccessUrl) :
    (services.foldl (fun r s => (r.put s).2) r).get? url = (r.get? url).or (services.find? fun s => s.url = url) := by
  induction services generalizing r with
  | nil => simp
  | cons s rest ih =>
    rw [List.foldl_cons, ih, get?_put, Option.or_assoc, List.find?_cons]
    by_cases hu : s.url = url
    · simp [hu]
    · simp [hu, Ne.symm hu]

namespace Endpoint

/-- The error of an endpoint with unusable authentication. -/
def error? (hasStore : Bool) (e : Endpoint) : Option SyncError :=
  match e.auth.toMethod hasStore with
  | .ok _ => none
  | .error err => some err

/-- The services of endpoints, up to the first with unusable authentication. -/
def services (hasStore : Bool) : List Endpoint → List Service
  | [] => []
  | e :: rest =>
    match e.auth.toMethod hasStore with
    | .ok auth => (Service.fresh e.url).withAuth auth :: services hasStore rest
    | .error _ => []

/-- That endpoints, all of them usable, stand for services, in order. -/
def Serves (hasStore : Bool) (es : List Endpoint) (ss : List Service) : Prop :=
  List.Forall₂ (fun e s => ∃ auth, e.auth.toMethod hasStore = .ok auth ∧ s = (Service.fresh e.url).withAuth auth) es ss

/-- That endpoints, all of them usable, stand for registries, in order. -/
def Watches (hasStore : Bool) (es : List Endpoint) (ws : List Engine.Watched) : Prop :=
  List.Forall₂ (fun e w => w.url = e.url ∧ e.auth.toMethod hasStore = .ok w.auth) es ws

variable {hasStore : Bool}

/-- The services are those of the endpoints before the first unusable one. -/
theorem serves_services (hasStore : Bool) (es : List Endpoint) :
    ∃ usable rest, es = usable ++ rest ∧ (∀ e ∈ rest.head?, (e.error? hasStore).isSome) ∧
      Serves hasStore usable (services hasStore es) := by
  induction es with
  | nil => exact ⟨[], [], rfl, by simp, .nil⟩
  | cons e rest ih =>
    cases he : e.auth.toMethod hasStore with
    | error err => exact ⟨[], e :: rest, rfl, by simp [error?, he], by simp [services, he, Serves]⟩
    | ok auth =>
      obtain ⟨usable, rest', rfl, hrest, hs⟩ := ih
      rw [services, he]
      exact ⟨e :: usable, rest', rfl, hrest, .cons ⟨auth, he, rfl⟩ hs⟩

/-- Where all endpoints are usable, each has a service. -/
theorem serves_of_usable {es : List Endpoint} (h : es.findSome? (error? hasStore) = none) :
    Serves hasStore es (services hasStore es) := by
  obtain ⟨usable, rest, rfl, hrest, hs⟩ := serves_services hasStore es
  cases rest with
  | nil => rwa [List.append_nil] at hs ⊢
  | cons e rest =>
    have hn := List.findSome?_eq_none_iff.1 h e (by simp)
    simp [hn] at hrest

namespace Serves

variable {es : List Endpoint} {ss : List Service}

/-- Each endpoint has a service of its URL. -/
theorem exists_url (h : Serves hasStore es ss) {e : Endpoint} (he : e ∈ es) : ∃ s ∈ ss, s.url = e.url := by
  induction h with
  | nil => nomatch he
  | @cons e' s es ss hs _ ih =>
    rcases List.mem_cons.1 he with rfl | he
    · obtain ⟨auth, -, rfl⟩ := hs
      exact ⟨_, List.mem_cons_self, rfl⟩
    · obtain ⟨s', hs', hu⟩ := ih he
      exact ⟨s', List.mem_cons_of_mem _ hs', hu⟩

/-- The service found under a URL is that of the first endpoint with this URL. -/
theorem find?_url {before after : List Endpoint} {e : Endpoint} (h : Serves hasStore (before ++ e :: after) ss)
    (hb : ∀ e' ∈ before, e'.url ≠ e.url) :
    ∃ auth, e.auth.toMethod hasStore = .ok auth ∧
      (ss.find? fun s => s.url = e.url) = some ((Service.fresh e.url).withAuth auth) := by
  induction before generalizing ss with
  | nil =>
    cases h with
    | cons hs _ =>
      obtain ⟨auth, ha, rfl⟩ := hs
      exact ⟨auth, ha, by rw [List.find?_cons_of_pos]; simp [Service.fresh, Service.withAuth]⟩
  | cons e' before ih =>
    cases h with
    | cons hs h =>
      obtain ⟨hne, hb⟩ := List.forall_mem_cons.1 hb
      obtain ⟨auth, ha, hf⟩ := ih h hb
      obtain ⟨auth', -, rfl⟩ := hs
      exact ⟨auth, ha, by rwa [List.find?_cons_of_neg]; simp [Service.fresh, Service.withAuth, hne]⟩

/-- Where services were registered one by one, each endpoint's URL has an entry, an entry that was there before is what it was, and
the first endpoint of a URL counts. -/
theorem get?_of_put (h : Serves hasStore es ss) {r r' : Registry}
    (hr : ∀ url, r'.get? url = (r.get? url).or (ss.find? fun s => s.url = url)) :
    (∀ e ∈ es, r'.contains e.url) ∧ (∀ url x, r.get? url = some x → r'.get? url = some x) ∧
    ∀ before e after, es = before ++ e :: after → r.get? e.url = none → (∀ e' ∈ before, e'.url ≠ e.url) →
      ∃ auth, e.auth.toMethod hasStore = .ok auth ∧ r'.get? e.url = some ((Service.fresh e.url).withAuth auth) := by
  refine ⟨fun e he => ?_, fun url x hx => by rw [hr, hx, Option.some_or], fun before e after hes hnew hb => ?_⟩
  · obtain ⟨x, hx, hu⟩ := h.exists_url he
    have hf : (ss.find? fun s => s.url = e.url).isSome := List.find?_isSome.2 ⟨x, hx, by simpa using hu⟩
    rw [Registry.contains, hr, Option.isSome_or, hf, Bool.or_true]
  · obtain ⟨auth, ha, hf⟩ := (hes ▸ h).find?_url hb
    exact ⟨auth, ha, by rw [hr, hnew, Option.none_or, hf]⟩

end Serves

end Endpoint

namespace Engine

/-! ## Registering them -/

/-- Registers services one by one. -/
def registerAll : List Service → Program Unit
  | [] => return ()
  | s :: rest => do
    let _ ← Program.request (.register s)
    registerAll rest

/-- A deed by which a service is registered, unless there is one of its URL. -/
inductive Deed.Registers (s : Service) : Deed → Prop
  | mk (v : World) : Registers s ⟨v, .answered (.register s) (v.registry.put s).1, { v with registry := (v.registry.put s).2 }⟩

/-- Whatever others do, services are registered in order, and nothing else is done. -/
theorem Program.Works.of_registerAll {R : World → World → Prop} {α : Type} {services : List Service} {a : α} {w w' : World}
    {ds : List Deed} {q : Program α} (h : (registerAll services >>= fun _ => .done a).Works R w ds w' q) :
    ∃ registered rest, services = registered ++ rest ∧ q = (registerAll rest >>= fun _ => .done a) ∧
      List.Forall₂ Deed.Registers registered ds := by
  induction services generalizing w ds with
  | nil =>
    cases h with
    | nil => exact ⟨[], [], rfl, rfl, .nil⟩
    | cons _ hm _ => nomatch hm
  | cons s rest ih =>
    cases h with
    | nil => exact ⟨[], s :: rest, rfl, rfl, .nil⟩
    | cons hr hm h =>
      cases hm with
      | ask ha =>
        cases ha with
        | world hp =>
          cases hp
          obtain ⟨registered, rest', rfl, hq, hds⟩ := ih h
          exact ⟨s :: registered, rest', rfl, hq, .cons (.mk _) hds⟩

/-- Alone, registering services changes nothing but the registry. -/
theorem Program.Works.foldl_put {α : Type} {p q : Program α} {w w' : World} {services : List Service} {ds : List Deed}
    (h : p.Works World.Passes w ds w' q) (hs : List.Forall₂ Deed.Registers services ds) :
    ({ w with registry := services.foldl (fun r s => (r.put s).2) w.registry } : World).Passes w' := by
  induction h generalizing services with
  | nil =>
    cases hs
    exact .refl _
  | cons hr _ _ ih =>
    cases hs with
    | cons hd hs =>
      obtain ⟨t, rfl⟩ := hr
      cases hd
      exact World.Passes.trans ⟨t, rfl⟩ (ih hs)

namespace Scheduler

variable (hasStore : Bool)

/-! ## The scheduler -/

theorem registerEndpoints_eq (es : List Endpoint) :
    registerEndpoints hasStore es = registerAll (Endpoint.services hasStore es) >>= fun _ =>
      .done (match es.findSome? (Endpoint.error? hasStore) with
        | some e => .error e
        | none => .ok ()) := by
  induction es with
  | nil => rfl
  | cons e rest ih =>
    rw [registerEndpoints, Endpoint.services, List.findSome?_cons, Endpoint.error?]
    cases e.auth.toMethod hasStore with
    | error err => rfl
    | ok auth =>
      rw [ih]
      rfl

theorem watchEndpoints_eq (es : List Endpoint) (s : Scheduler) :
    (∃ e, es.findSome? (Endpoint.error? hasStore) = some e ∧ watchEndpoints hasStore s es = .error e) ∨
    es.findSome? (Endpoint.error? hasStore) = none ∧
      ∃ ws, Endpoint.Watches hasStore es ws ∧ watchEndpoints hasStore s es = .ok { s with watched := s.watched ++ ws } := by
  induction es generalizing s with
  | nil => exact Or.inr ⟨rfl, [], .nil, by rw [List.append_nil]; rfl⟩
  | cons e rest ih =>
    rw [watchEndpoints, List.findSome?_cons, Endpoint.error?]
    cases he : e.auth.toMethod hasStore with
    | error err => exact Or.inl ⟨err, rfl, rfl⟩
    | ok auth =>
      rcases ih (s.watch e.url auth) with ⟨err, hf, hw⟩ | ⟨hf, ws, hws, hw⟩
      · exact Or.inl ⟨err, hf, hw⟩
      · refine Or.inr ⟨hf, ⟨e.url, auth⟩ :: ws, .cons ⟨rfl, he⟩ hws, hw.trans ?_⟩
        simp [watch]

/-- Setting up endpoints is registering the services before the first unusable one; what comes of it is settled from the start. -/
theorem withEndpoints_eq (s : Scheduler) (settings : Settings) :
    ∃ r, s.withEndpoints settings hasStore = (registerAll (Endpoint.services hasStore settings.services) >>= fun _ => .done r) ∧
      ((∃ e, (settings.services ++ settings.registries).findSome? (Endpoint.error? hasStore) = some e ∧ r = .error e) ∨
      (settings.services ++ settings.registries).findSome? (Endpoint.error? hasStore) = none ∧
        ∃ ws, Endpoint.Watches hasStore settings.registries ws ∧ r = .ok { s with watched := s.watched ++ ws }) := by
  rw [withEndpoints, registerEndpoints_eq, bind_assoc, List.findSome?_append]
  cases settings.services.findSome? (Endpoint.error? hasStore) with
  | some e => exact ⟨.error e, rfl, Or.inl ⟨e, rfl, rfl⟩⟩
  | none => exact ⟨watchEndpoints hasStore s settings.registries, rfl, watchEndpoints_eq hasStore settings.registries s⟩

/-- Setting up endpoints takes one move for each service that is registered, in the order of the settings, whatever others do in
between; it waits for nobody. Alone, it registers the services before the first one with unusable authentication and changes
nothing else. It ends with an error exactly if an endpoint is unusable, which is the error of the first one; what was registered
stays. Otherwise each URL has an entry, an entry that was there before is what it was, the first endpoint of a URL counts, and the
registries are watched in order. -/
theorem withEndpoints_settles (s : Scheduler) (settings : Settings) (w : World) :
    (∀ R ds v q, (s.withEndpoints settings hasStore).Works R w ds v q →
      (∃ registered, registered <+: Endpoint.services hasStore settings.services ∧ List.Forall₂ Deed.Registers registered ds) ∧
      ((∃ r, q = .done r) ∨ ∀ v, ∃ m v' q', Program.Step v q m v' q')) ∧
    ∀ ds w' r, (s.withEndpoints settings hasStore).Works World.Passes w ds w' (.done r) →
      (∃ registry, ({ w with registry } : World).Passes w') ∧
      (∃ usable rest services, settings.services = usable ++ rest ∧ (∀ e ∈ rest.head?, (e.error? hasStore).isSome) ∧
        Endpoint.Serves hasStore usable services ∧
        ∀ url, w'.registry.get? url = (w.registry.get? url).or (services.find? fun x => x.url = url)) ∧
      ((∃ e, r = .error e) ↔ ∃ e ∈ settings.services ++ settings.registries, (e.error? hasStore).isSome) ∧
      (∀ err, r = .error err → (settings.services ++ settings.registries).findSome? (Endpoint.error? hasStore) = some err) ∧
      ∀ s', r = .ok s' →
        (∀ e ∈ settings.services, w'.registry.contains e.url) ∧
        (∀ url x, w.registry.get? url = some x → w'.registry.get? url = some x) ∧
        (∀ before e after, settings.services = before ++ e :: after → w.registry.get? e.url = none →
          (∀ e' ∈ before, e'.url ≠ e.url) → ∃ auth, e.auth.toMethod hasStore = .ok auth ∧
            w'.registry.get? e.url = some ((Service.fresh e.url).withAuth auth)) ∧
        ∃ watched, Endpoint.Watches hasStore settings.registries watched ∧ s' = { s with watched := s.watched ++ watched } := by
  obtain ⟨r₀, heq, hr₀⟩ := s.withEndpoints_eq hasStore settings
  rw [heq]
  refine ⟨fun R ds v q h => ?_, fun ds w' r h => ?_⟩
  · obtain ⟨registered, rest, hs, rfl, hds⟩ := h.of_registerAll
    refine ⟨⟨registered, ⟨rest, hs.symm⟩, hds⟩, ?_⟩
    cases rest with
    | nil => exact Or.inl ⟨_, rfl⟩
    | cons x rest => exact Or.inr fun v => Program.exists_step v rfl
  · obtain ⟨registered, rest, hs, hq, hds⟩ := h.of_registerAll
    cases rest with
    | cons x rest => nomatch hq
    | nil =>
      obtain rfl := Program.done.inj hq
      rw [List.append_nil] at hs
      subst hs
      have hp := h.foldl_put hds
      have hget : ∀ url, w'.registry.get? url = (w.registry.get? url).or
          ((Endpoint.services hasStore settings.services).find? fun x => x.url = url) := fun url => by
        rw [hp.registry, Registry.get?_foldl_put]
      obtain ⟨usable, rest, hes, hrest, hserves⟩ := Endpoint.serves_services hasStore settings.services
      refine ⟨⟨_, hp⟩, ⟨usable, rest, _, hes, hrest, hserves, hget⟩, ?_⟩
      -- whether there is an error is settled before anything is registered
      rcases hr₀ with ⟨e, he, rfl⟩ | ⟨hn, ws, hws, rfl⟩
      · refine ⟨⟨fun _ => ?_, fun _ => ⟨e, rfl⟩⟩, ?_, nofun⟩
        · exact List.findSome?_isSome_iff.1 (by rw [he]; rfl)
        · rintro _ ⟨⟩
          exact he
      · refine ⟨⟨nofun, fun hu => ?_⟩, nofun, ?_⟩
        · have := List.findSome?_isSome_iff.2 hu
          rw [hn] at this
          nomatch this
        · rintro _ ⟨⟩
          rw [List.findSome?_append, Option.or_eq_none_iff] at hn
          obtain ⟨hall, hkept, hfirst⟩ := (Endpoint.serves_of_usable hn.1).get?_of_put hget
          exact ⟨hall, hkept, hfirst, ws, hws, rfl⟩

/-- Of two endpoints of one URL the first one counts, and an entry that was there before stays. -/
theorem withEndpoints_settles_twice :
    let a : AccessUrl := ⟨"http://a"⟩
    let b : AccessUrl := ⟨"http://b"⟩
    let old : Service := (Service.fresh b).withOrigin a
    let s : Scheduler := default
    let settings : Settings := { Settings.default with
      services := [⟨a, .vault "k"⟩, ⟨b, .none⟩, ⟨a, .none⟩], registries := [⟨b, .none⟩] }
    let w : World := { World.initial (.ofNat 16) with registry := ⟨[(b, old)]⟩ }
    ∃ ds w' s', (s.withEndpoints settings true).Works World.Passes w ds w' (.done (.ok s')) ∧
      w'.registry.get? b = some old ∧ w'.registry.get? a = some ((Service.fresh a).withAuth (.vault "k")) := by
  intro a b old s settings w
  have hw : (s.withEndpoints settings true).Works World.Passes w _ _ (.done (.ok (s.watch b .none))) :=
    .cons (.refl _) (.ask (.world rfl)) (.cons (.refl _) (.ask (.world rfl)) (.cons (.refl _) (.ask (.world rfl)) (.nil _ _)))
  obtain ⟨-, -, -, -, hok⟩ := (withEndpoints_settles true s settings w).2 _ _ _ hw
  obtain ⟨-, hkept, hfirst, -⟩ := hok _ rfl
  obtain ⟨auth, ha, hget⟩ := hfirst [] ⟨a, .vault "k"⟩ [⟨b, .none⟩, ⟨a, .none⟩] rfl rfl (by simp)
  cases ha
  exact ⟨_, _, _, hw, hkept b old rfl, hget⟩

/-- Setting up endpoints is not all or nothing: a service before an endpoint with unusable authentication stays registered. -/
theorem withEndpoints_not_all_or_nothing :
    ¬ ∀ (s : Scheduler) (settings : Settings) (hasStore : Bool) (w : World) ds w' e,
      (s.withEndpoints settings hasStore).Works World.Passes w ds w' (.done (.error e)) → w'.registry = w.registry := by
  intro h
  let settings : Settings := { Settings.default with services := [⟨⟨"https://a"⟩, .none⟩, ⟨⟨"https://b"⟩, .vault "k"⟩] }
  have hw : (Scheduler.withEndpoints default settings false).Works World.Passes (World.initial (.ofNat 16)) _ _
      (.done (.error (.configuration "vault authentication for alias 'k' needs a secret store"))) :=
    .cons (.refl _) (.ask (.world rfl)) (.nil _ _)
  have hsize := congrArg Registry.size (h _ _ _ _ _ _ _ hw)
  nomatch hsize

end Scheduler

end Engine

end CatalogSync
