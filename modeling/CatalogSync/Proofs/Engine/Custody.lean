import Mathlib.Data.List.Nodup
import CatalogSync.Proofs.Catalog.Shelf
import CatalogSync.Proofs.Engine.Operations
import CatalogSync.Proofs.Registry

/-!
# Custody of sites

In every state that a run leads to, each live guard is in the custody of one task or of one job that has not begun, what a task
holds is as its program expects it, and the sites that nobody holds are sound (`State.Kept`). `Program.Step.effect` says what one
move does to sites and guards, `State.Kept.step` that no step breaks the custody, and `State.Run.kept` that no run does.
-/

namespace CatalogSync.Engine

open Regime

/-! ## Worlds and guards -/

namespace World

/-- The guards handed to jobs whose tasks have not begun. -/
def jobGuards (w : World) : List Guard := w.spawned.flatMap fun x => (Origin.job x.2).guards

/-- The marks are the URLs of the live guards, one guard for each, and every service is kept under its own URL. -/
structure Sane (w : World) : Prop where
  keyed : w.registry.Keyed
  marks : w.inFlight = w.guards.map Guard.url
  nodup : w.inFlight.Nodup

/-- The guards, those handed to jobs and the marks are the same. -/
structure SameGuards (w w' : World) : Prop where
  guards : w'.guards = w.guards
  inFlight : w'.inFlight = w.inFlight
  jobs : w'.jobGuards = w.jobGuards

/-- Everything that sites and guards depend on is the same. -/
structure Alike (w w' : World) : Prop where
  registry : w'.registry = w.registry
  catalog : w'.catalog = w.catalog
  guards : w.SameGuards w'

end World

/-- Whether the world may change sites or guards to answer a request. -/
def Request.touches : Request → Bool
  | .register _ | .remove _ | .swap _ _ _ | .tryMark _ | .unmark _ | .spawn _ => true
  | .now | .sleep _ | .service _ | .services | .snapshot _ | .resolve _ | .wake | .report _ _ | .join _ | .queue | .permit _ | .leave
  | .fetch _ _ | .advertised _ _ | .apply _ _ => false

/-- What is held, with the site as it is now. -/
def Held.now (w : World) : Held → Held
  | none => none
  | some (g, _) => some (g, w.site g.url)

/-- What a move does to what a task holds, to the sites and to the guards. -/
inductive Effect (P : Regime) (w w' : World) : Held → Held → Prop where
  /-- Nothing, or a service is registered. -/
  | idle (held : Held) (hg : w.SameGuards w') (hs : ∀ g : Guard, P.Grows (some (g, w.site g.url)) (some (g, w'.site g.url))) :
    Effect P w w' held held
  /-- The site of the guard changes, and no other. -/
  | worked (g : Guard) (hg : w.SameGuards w') (hs : ∀ url, url ≠ g.url → w'.site url = w.site url) :
    Effect P w w' (some (g, w.site g.url)) (some (g, w'.site g.url))
  /-- A guard is taken for a URL that nobody works on. -/
  | took (g : Guard) (hf : g.url ∉ w.inFlight) (hs : w'.site = w.site) (hj : w'.jobGuards = w.jobGuards)
    (hg : w'.guards = g :: w.guards) (hi : w'.inFlight = g.url :: w.inFlight) : Effect P w w' none (some (g, w.site g.url))
  /-- A guard is given back with its site in order. -/
  | gave (g : Guard) (hσ : P.sound g.url (w.site g.url)) (hs : w'.site = w.site) (hj : w'.jobGuards = w.jobGuards)
    (hg : w'.guards = w.guards.filter (· ≠ g)) (hi : w'.inFlight = w.inFlight.filter (· ≠ g.url)) :
    Effect P w w' (some (g, w.site g.url)) none
  /-- A guard is handed to a new job with its site in order. -/
  | handed (g : Guard) (hσ : P.sound g.url (w.site g.url)) (hs : w'.site = w.site) (hj : w'.jobGuards = w.jobGuards ++ [g])
    (hg : w'.guards = w.guards) (hi : w'.inFlight = w.inFlight) : Effect P w w' (some (g, w.site g.url)) none

/-- Which moves may happen: change sets are refused or given up on only where they may get lost. -/
def Regime.AllowsMove (P : Regime) : Move → Prop
  | .answered (.apply _ _) (.error _) => P.lossy
  | .expired r => P.MayExpire r
  | _ => True

variable {P : Regime} {w w' : World}

/-! ## What a move does to what is held -/

/-- Looking at the site of a guard again leaves the guard held. -/
theorem Held.guards_now (w : World) (held : Held) : Held.guards (Held.now w held) = Held.guards held := by
  cases held <;> rfl

/-- A guard that is held now, with the site as it is. -/
theorem Held.eq_of_now_eq_some {held : Held} {g : Guard} {σ : Site} (h : Held.now w held = some (g, σ)) :
    ∃ old, held = some (g, old) ∧ σ = w.site g.url := by
  rcases held with _ | ⟨g', old⟩
  · nomatch h
  · cases h
    exact ⟨old, rfl, rfl⟩

theorem World.Alike.refl (w : World) : w.Alike w := ⟨rfl, rfl, ⟨rfl, rfl, rfl⟩⟩

/-- Alike worlds have the same sites. -/
theorem World.Alike.site (h : w.Alike w') : w'.site = w.site := by
  funext url
  simp [World.site, h.registry, h.catalog]

/-- A move that changes neither guards nor sites. -/
theorem Effect.of_alike {held : Held} (h : w.Alike w') : Effect P w w' held held := .idle held h.guards fun _ => h.site ▸ .same _

/-- A move that changes the site of the guard, and no other. -/
theorem Effect.of_work {g : Guard} {σ : Site} (hg : w.SameGuards w') (hs : w'.site g.url = σ)
    (ho : ∀ url, url ≠ g.url → w'.site url = w.site url) : Effect P w w' (some (g, w.site g.url)) (some (g, σ)) :=
  hs ▸ .worked g hg ho

namespace World

/-- A guard is refused where the URL is marked, and nothing changes. -/
theorem tryMark_eq_none {url : AccessUrl} (h : w.tryMark url = (none, w')) : url ∈ w.inFlight ∧ w' = w := by
  unfold tryMark at h
  split at h
  · rename_i hu
    cases h
    exact ⟨by simpa using hu, rfl⟩
  · nomatch h

/-- A guard is new, and its URL was free and is marked now. -/
theorem tryMark_eq_some {url : AccessUrl} {g : Guard} (h : w.tryMark url = (some g, w')) :
    url ∉ w.inFlight ∧ g = ⟨w.guardCount, url⟩ ∧
      w' = { w with inFlight := url :: w.inFlight, guards := g :: w.guards, guardCount := w.guardCount + 1 } := by
  unfold tryMark at h
  split at h
  · nomatch h
  · rename_i hu
    cases h
    exact ⟨by simpa using hu, rfl, rfl⟩

/-- An exchange of snapshots replaces the entry, or finds another snapshot there and changes nothing. -/
theorem swap_cases {url : AccessUrl} {expected : Option Snapshot} {new : Snapshot} {a : Except RegistryError (Option Snapshot)}
    (h : w.swap url expected new = (a, w')) :
    (∃ s, w.registry.get? url = some s ∧ s.snapshot.map Snapshot.id = expected.map Snapshot.id ∧ a = .ok s.snapshot ∧
      w' = { w with registry := w.registry.replace { s with snapshot := some new, lastSynced := some w.now } }) ∨
    ∃ e, (∀ s, w.registry.get? url = some s → s.snapshot.map Snapshot.id ≠ expected.map Snapshot.id) ∧ a = .error e ∧ w' = w := by
  unfold swap at h
  rcases w.registry.swap_cases w.now url expected new with ⟨s, hs, hid, he⟩ | ⟨s, hs, hid, he⟩ | ⟨hs, he⟩ <;> rw [he] at h <;> cases h
  · exact Or.inl ⟨s, hs, hid, rfl, rfl⟩
  · refine Or.inr ⟨_, ?_, rfl, rfl⟩
    intro s' hs'
    exact Option.some.inj (hs.symm.trans hs') ▸ hid
  · refine Or.inr ⟨_, ?_, rfl, rfl⟩
    intro s hs'
    nomatch hs.symm.trans hs'

/-- Registering an admitted service changes a site only where there was no entry. -/
theorem grows_register {s : Service} (ha : P.admits s) (hw' : w' = { w with registry := (w.registry.put s).2 }) (g : Guard) :
    P.Grows (some (g, w.site g.url)) (some (g, w'.site g.url)) := by
  subst hw'
  have he : (w.registry.put s).2.get? g.url = (w.registry.get? g.url).or (if g.url = s.url then some s else none) :=
    w.registry.get?_put s g.url
  unfold site
  rw [he]
  cases h : w.registry.get? g.url with
  | some x => exact .same _
  | none =>
    by_cases hu : g.url = s.url
    · rw [if_pos hu]
      exact .registered ha hu.symm
    · rw [if_neg hu]
      exact .same _

end World

/-- The world answers requests that do not touch sites and guards and leaves them alone. -/
theorem World.alike_of_perform {r : Request} {a : r.Answer} (h : w.perform r = some (a, w')) (hr : r.touches = false) :
    w.Alike w' := by
  cases r with
  | sleep time | join task | permit ticket =>
    simp only [perform] at h
    split at h
    · cases h
      exact ⟨rfl, rfl, ⟨rfl, rfl, rfl⟩⟩
    · nomatch h
  | now | service url | services | snapshot graph | resolve name | wake | report pipeline failure | queue | leave =>
    cases h
    exact ⟨rfl, rfl, ⟨rfl, rfl, rfl⟩⟩
  | register s | remove url | swap url expected new | tryMark url | unmark g | spawn job => nomatch hr
  | fetch url headers | advertised registry headers | apply url changes => nomatch h

namespace Effect

/-- The guard that a move takes for a URL, and what the world is then. -/
theorem of_tryMark {url : AccessUrl} {g : Guard} (h : w.tryMark url = (some g, w')) :
    g.url = url ∧ Effect P w w' none (some (g, w.site g.url)) := by
  obtain ⟨hu, rfl, rfl⟩ := World.tryMark_eq_some h
  exact ⟨rfl, .took ⟨w.guardCount, url⟩ hu rfl rfl rfl rfl⟩

/-- The service of the guard's URL is removed. -/
theorem of_remove (g : Guard) : Effect P w { w with registry := (w.registry.remove g.url).2 } (some (g, w.site g.url))
    (some (g, { w.site g.url with entry := none })) := by
  have hr := w.registry.get?_remove g.url
  refine .of_work ⟨rfl, rfl, rfl⟩ ?_ ?_
  · have he := hr g.url
    rw [if_pos rfl] at he
    exact congrArg (Site.mk · _) he
  · intro url hu
    have he := hr url
    rw [if_neg hu] at he
    exact congrArg (Site.mk · _) he

/-- The service of the guard's URL is replaced. -/
theorem of_replace (g : Guard) {s s' : Service} (hs : w.registry.get? g.url = some s) (hu : s'.url = g.url) :
    Effect P w { w with registry := w.registry.replace s' } (some (g, w.site g.url))
      (some (g, { w.site g.url with entry := some s' })) := by
  refine .of_work ⟨rfl, rfl, rfl⟩ ?_ ?_
  · simp [World.site, Registry.get?_replace, hu, hs]
  · intro url hne
    simp [World.site, Registry.get?_replace, hu, hne]

/-- Changes are applied to the shelf of the guard's URL. -/
theorem of_apply (g : Guard) (c : ResourceChanges) : Effect P w (w.apply g.url c) (some (g, w.site g.url))
    (some (g, { w.site g.url with shelf := (w.site g.url).shelf.apply c })) := by
  refine .of_work ⟨rfl, rfl, rfl⟩ ?_ ?_
  · simp [World.site, World.apply, Catalog.entries_apply_self]
  · intro url hu
    simp [World.site, World.apply, Catalog.entries_apply_other _ hu]

/-- The effect of an answer that the world gives, which is one that the program is prepared for. -/
theorem of_perform {r : Request} {a : r.Answer} {held : Held} {K : r.Answer → Held → Prop}
    (h : w.perform r = some (a, w')) (hw : w.Sane) (hfree : ∀ url, url ∉ w.inFlight → P.sound url (w.site url))
    (hk : P.Reply (Held.now w held) r K) :
    ∃ held', K a held' ∧ Effect P w w' (Held.now w held) held' ∧
      Held.guards held' = (Move.answered r a).guards (Held.guards held) := by
  have hnow := Held.guards_now w held
  cases r with
  | now | sleep time | services | resolve name | wake | report pipeline failure | join task | queue | permit ticket | leave =>
    exact ⟨_, hk _, .of_alike (World.alike_of_perform h rfl), hnow⟩
  | snapshot graph =>
    cases h
    exact ⟨_, hk _, .of_alike ⟨rfl, rfl, ⟨rfl, rfl, rfl⟩⟩, hnow⟩
  | service url =>
    cases h
    obtain ⟨g, σ, he, rfl, hc⟩ := hk
    obtain ⟨_, rfl, rfl⟩ := Held.eq_of_now_eq_some he
    exact ⟨_, hc fun s hs => hw.keyed _ s hs, .of_alike (.refl _), hnow⟩
  | register s =>
    cases h
    obtain ⟨he, ha, hc⟩ := hk
    rw [he]
    exact ⟨none, hc _, .idle _ ⟨rfl, rfl, rfl⟩ (World.grows_register ha rfl), by rw [← hnow, he]; rfl⟩
  | remove url =>
    cases h
    obtain ⟨g, σ, he, rfl, hc⟩ := hk
    obtain ⟨_, rfl, rfl⟩ := Held.eq_of_now_eq_some he
    exact ⟨_, hc fun s hs => hw.keyed _ s hs, .of_remove g, hnow⟩
  | swap url expected new =>
    obtain ⟨g, σ, he, rfl, hok, herr⟩ := hk
    obtain ⟨_, rfl, rfl⟩ := Held.eq_of_now_eq_some he
    have hswap : w.swap g.url expected new = (a, w') := Option.some.inj h
    rcases World.swap_cases hswap with ⟨s, hs, hid, rfl, rfl⟩ | ⟨e, hne, rfl, rfl⟩
    · exact ⟨_, hok s hs hid w.now, .of_replace g hs (hw.keyed _ s hs), hnow⟩
    · exact ⟨_, herr hne e, .of_alike (.refl _), hnow⟩
  | tryMark url =>
    obtain ⟨he, hn, hc⟩ := hk
    have hheld : Held.guards held = [] := by rw [← hnow, he]; rfl
    have ht : w.tryMark url = (a, w') := Option.some.inj h
    cases a with
    | none =>
      obtain ⟨_, rfl⟩ := World.tryMark_eq_none ht
      exact ⟨none, hn, he ▸ .of_alike (.refl _), hheld.symm⟩
    | some g =>
      obtain ⟨rfl, heff⟩ := Effect.of_tryMark (P := P) ht
      exact ⟨_, hc g _ rfl (hfree _ (World.tryMark_eq_some ht).1), he ▸ heff, by rw [hheld]; rfl⟩
  | unmark g =>
    cases h
    obtain ⟨σ, he, hσ, hc⟩ := hk
    obtain ⟨_, rfl, rfl⟩ := Held.eq_of_now_eq_some he
    refine ⟨none, hc, .gave g hσ rfl rfl rfl rfl, ?_⟩
    simp [Held.guards, Move.guards]
  | spawn job =>
    cases h
    cases job with
    | tick g =>
      obtain ⟨σ, he, hσ, hc⟩ := hk
      obtain ⟨_, rfl, rfl⟩ := Held.eq_of_now_eq_some he
      refine ⟨none, hc _, .handed g hσ rfl ?_ rfl rfl, ?_⟩
      · simp [World.jobGuards, Origin.guards]
      · simp [Held.guards, Move.guards]
    | round =>
      refine ⟨_, hk _, .of_alike ⟨rfl, rfl, ⟨rfl, rfl, ?_⟩⟩, hnow⟩
      simp [World.jobGuards, Origin.guards]
  | fetch url headers => nomatch h
  | advertised registry headers => nomatch h
  | apply url changes => nomatch h

end Effect

/-- The effect of an answer, which is one that the program is prepared for. -/
theorem Answers.effect {r : Request} {a : r.Answer} {held : Held} {K : r.Answer → Held → Prop} (h : Answers w r a w')
    (hw : w.Sane) (hfree : ∀ url, url ∉ w.inFlight → P.sound url (w.site url)) (hk : P.Reply (Held.now w held) r K)
    (ha : P.AllowsMove (.answered r a)) :
    ∃ held', K a held' ∧ Effect P w w' (Held.now w held) held' ∧
      Held.guards held' = (Move.answered r a).guards (Held.guards held) := by
  have hnow := Held.guards_now w held
  cases h with
  | world h => exact Effect.of_perform h hw hfree hk
  | resolved name a => exact ⟨_, hk a, .of_alike (.refl _), hnow⟩
  | fetched url headers a => exact ⟨_, hk.2 a, .of_alike (.refl _), hnow⟩
  | advertised registry headers a => exact ⟨_, hk a, .of_alike (.refl _), hnow⟩
  | applied url changes =>
    obtain ⟨g, σ, he, rfl, _, hc, _⟩ := hk
    obtain ⟨_, rfl, rfl⟩ := Held.eq_of_now_eq_some he
    exact ⟨_, hc, .of_apply g changes, hnow⟩
  | refused url changes e =>
    obtain ⟨g, σ, he, rfl, _, _, herr⟩ := hk
    exact ⟨_, herr ha e, .of_alike (.refl _), hnow⟩

/-- What is held is what the world has now, or was until others registered a service there. -/
def Held.Current (P : Regime) (w : World) (held : Held) : Prop := P.Grows held (Held.now w held)

/-- The effect of a move of a program that keeps a regime. -/
theorem Program.Step.effect {α : Type} {p p' : Program α} {m : Move} {held : Held} {Q : α → Held → Prop}
    (h : Program.Step w p m w' p') (hw : w.Sane) (hfree : ∀ url, url ∉ w.inFlight → P.sound url (w.site url))
    (hk : p.Keeps P held Q) (hc : Held.Current P w held) (hm : P.AllowsMove m) :
    ∃ held', p'.Keeps P held' Q ∧ Effect P w w' (Held.now w held) held' ∧ Held.guards held' = m.guards (Held.guards held) := by
  have hnow := Held.guards_now w held
  cases h with
  | ask h => exact h.effect hw hfree (hk _ hc).2.1 hm
  | within h => exact h.effect hw hfree (hk _ hc).2.1 hm
  | expire h => exact ⟨_, (hk _ hc).2.2 hm, .of_alike (.refl _), hnow⟩
  | listen =>
    obtain ⟨rfl, hk⟩ := hk
    exact ⟨none, ⟨rfl, hk⟩, .of_alike (.refl _), rfl⟩
  | take h =>
    obtain ⟨rfl, hk⟩ := hk
    obtain ⟨rfl, heff⟩ := Effect.of_tryMark (P := P) h
    exact ⟨_, hk _ _ rfl (hfree _ (World.tryMark_eq_some h).1), heff, rfl⟩
  | yield h =>
    obtain ⟨rfl, hk⟩ := hk
    obtain ⟨_, rfl⟩ := World.tryMark_eq_none h
    exact ⟨none, ⟨rfl, hk⟩, .of_alike (.refl _), rfl⟩
  | woken h =>
    obtain ⟨rfl, hk⟩ := hk
    exact ⟨none, ⟨rfl, hk⟩, .of_alike (.refl _), rfl⟩

/-! ## What a move does to the registry -/

/-- An answer changes the registry in one of the ways in which it changes. -/
theorem Answers.edit {r : Request} {a : r.Answer} (h : Answers w r a w') : w.registry.Edit w'.registry := by
  cases h with
  | world h =>
    cases r with
    | register s =>
      cases h
      exact .put s
    | remove url =>
      cases h
      exact .remove url
    | swap url expected new =>
      have hswap : w.swap url expected new = (a, w') := Option.some.inj h
      rcases World.swap_cases hswap with ⟨s, hs, _, _, rfl⟩ | ⟨_, _, _, rfl⟩
      · exact .store hs new w.now
      · exact .same
    | tryMark url =>
      have ht : w.tryMark url = (a, w') := Option.some.inj h
      cases a with
      | none =>
        obtain ⟨_, rfl⟩ := World.tryMark_eq_none ht
        exact .same
      | some g =>
        obtain ⟨_, _, rfl⟩ := World.tryMark_eq_some ht
        exact .same
    | unmark g | spawn job =>
      cases h
      exact .same
    | now | sleep time | service url | services | snapshot graph | resolve name | wake | report pipeline failure | join task | queue
    | permit ticket | leave =>
      rw [(World.alike_of_perform h rfl).registry]
      exact .same
    | fetch url headers | advertised registry headers | apply url changes => nomatch h
  | resolved | fetched | advertised | applied | refused => exact .same

/-- A move is the answer to a request, or leaves the registry and the catalog as they were. -/
theorem Program.Step.answers_or_idle {α : Type} {p p' : Program α} {m : Move} (h : Program.Step w p m w' p') :
    (∃ r a, m = .answered r a ∧ Answers w r a w') ∨
      (∀ r a, m ≠ .answered r a) ∧ w'.registry = w.registry ∧ w'.catalog = w.catalog := by
  cases h with
  | ask h => exact Or.inl ⟨_, _, rfl, h⟩
  | within h => exact Or.inl ⟨_, _, rfl, h⟩
  | take h =>
    obtain ⟨_, _, rfl⟩ := World.tryMark_eq_some h
    exact Or.inr ⟨nofun, rfl, rfl⟩
  | yield h =>
    obtain ⟨_, rfl⟩ := World.tryMark_eq_none h
    exact Or.inr ⟨nofun, rfl, rfl⟩
  | expire | listen | woken => exact Or.inr ⟨nofun, rfl, rfl⟩

/-- So does a move. -/
theorem Program.Step.edit {α : Type} {p p' : Program α} {m : Move} (h : Program.Step w p m w' p') :
    w.registry.Edit w'.registry := by
  rcases h.answers_or_idle with ⟨r, a, rfl, ha⟩ | ⟨_, hsame, _⟩
  · exact ha.edit
  · rw [hsame]
    exact .same

/-- So does a step. -/
theorem State.Step.edit {s : Scheduler} {x y : State} {e : Event} (h : State.Step s x e y) :
    x.world.registry.Edit y.world.registry := by
  cases h with
  | move hp => exact hp.edit
  | @finish w before after past t report hr =>
    cases report.tick? <;> exact .same
  | call | begin | cut | pass => exact .same

/-! ## One guard for each mark -/

namespace World.Sane

/-- Live guards of one URL are one guard. -/
theorem eq_of_url_eq (h : w.Sane) {g g' : Guard} (hg : g ∈ w.guards) (hg' : g' ∈ w.guards) (hu : g.url = g'.url) : g = g' :=
  List.inj_on_of_nodup_map (h.marks ▸ h.nodup) hg hg' hu

/-- The URL of a live guard is marked. -/
theorem mem_inFlight (h : w.Sane) {g : Guard} (hg : g ∈ w.guards) : g.url ∈ w.inFlight := by
  rw [h.marks]
  exact List.mem_map_of_mem hg

/-- There is one live guard for each mark, so none is live twice. -/
theorem guards_nodup (h : w.Sane) : w.guards.Nodup := List.Nodup.of_map _ (h.marks ▸ h.nodup)

end World.Sane

/-! ## What others notice of a move -/

namespace Effect

variable {cur held' : Held}

/-- A move leaves the marks in line with the guards. -/
theorem sane (h : Effect P w w' cur held') (hw : w.Sane) (hk : w'.registry.Keyed) (hl : ∀ g ∈ Held.guards cur, g ∈ w.guards) :
    w'.Sane := by
  cases h with
  | idle _ hg _ => exact ⟨hk, by rw [hg.inFlight, hg.guards, hw.marks], hg.inFlight ▸ hw.nodup⟩
  | worked g hg _ => exact ⟨hk, by rw [hg.inFlight, hg.guards, hw.marks], hg.inFlight ▸ hw.nodup⟩
  | took g hf _ _ hg hi => exact ⟨hk, by rw [hi, hg, hw.marks, List.map_cons], hi ▸ List.nodup_cons.2 ⟨hf, hw.nodup⟩⟩
  | gave g _ _ _ hg hi =>
    have hmem : g ∈ w.guards := hl g (List.mem_singleton_self g)
    refine ⟨hk, ?_, hi ▸ hw.nodup.filter _⟩
    rw [hi, hg, hw.marks, List.filter_map]
    congr 1
    refine List.filter_congr fun g' hg' => ?_
    have hiff : g'.url = g.url ↔ g' = g := ⟨fun hu => hw.eq_of_url_eq hg' hmem hu, fun he => he ▸ rfl⟩
    simp [hiff]
  | handed g _ _ _ hg hi => exact ⟨hk, by rw [hi, hg, hw.marks], hi ▸ hw.nodup⟩

/-- At a site whose guard the mover does not hold, a move at most registers a service. -/
theorem grows (h : Effect P w w' cur held') (g : Guard) (hne : ∀ g' ∈ Held.guards cur, g.url ≠ g'.url) :
    P.Grows (some (g, w.site g.url)) (some (g, w'.site g.url)) := by
  cases h with
  | idle _ _ hs => exact hs g
  | worked g' _ hs =>
    rw [hs g.url (hne g' (List.mem_singleton_self g'))]
    exact .same _
  | took _ _ hs => exact hs ▸ .same _
  | gave _ _ hs => exact hs ▸ .same _
  | handed _ _ hs => exact hs ▸ .same _

/-- What the mover holds is current after a move. -/
theorem current {held : Held} (h : Effect P w w' (Held.now w held) held') : held'.Current P w' := by
  generalize hc : Held.now w held = cur at h
  cases h with
  | idle _ _ hs =>
    cases held with
    | none =>
      subst hc
      exact .same none
    | some x =>
      subst hc
      exact hs x.1
  | worked g => exact .same _
  | took g _ hs =>
    show P.Grows _ (some (g, w'.site g.url))
    rw [hs]
    exact .same _
  | gave | handed => exact .same none

/-- A guard handed to a job after a move was so before, or its site is in order. -/
theorem mem_jobGuards (h : Effect P w w' cur held') {g : Guard} (hg : g ∈ w'.jobGuards) :
    g ∈ w.jobGuards ∨ P.sound g.url (w'.site g.url) := by
  cases h with
  | idle _ hw _ => exact Or.inl (hw.jobs ▸ hg)
  | worked _ hw _ => exact Or.inl (hw.jobs ▸ hg)
  | took _ _ _ hj => exact Or.inl (hj ▸ hg)
  | gave _ _ _ hj => exact Or.inl (hj ▸ hg)
  | handed g' hσ hs hj =>
    rw [hj] at hg
    rcases List.mem_append.1 hg with hg | hg
    · exact Or.inl hg
    · obtain rfl := List.mem_singleton.1 hg
      exact Or.inr (hs ▸ hσ)

/-- A URL that is not marked after a move was not before, or its site is in order. -/
theorem freed (h : Effect P w w' cur held') {url : AccessUrl} (hu : url ∉ w'.inFlight) :
    url ∉ w.inFlight ∨ P.sound url (w'.site url) := by
  cases h with
  | idle _ hw _ => exact Or.inl (hw.inFlight ▸ hu)
  | worked _ hw _ => exact Or.inl (hw.inFlight ▸ hu)
  | took _ _ _ _ _ hi => exact Or.inl fun hm => hu (hi ▸ List.mem_cons_of_mem _ hm)
  | gave g hσ hs _ _ hi =>
    by_cases he : url = g.url
    · subst he
      exact Or.inr (hs ▸ hσ)
    · refine Or.inl fun hm => hu ?_
      rw [hi]
      exact List.mem_filter.2 ⟨hm, by simpa using he⟩
  | handed _ _ _ _ _ hi => exact Or.inl (hi ▸ hu)

/-- The owners of the guards after a move, given those of the guards that others have. -/
theorem owners (h : Effect P w w' cur held') (hw : w.Sane) {others : List Guard}
    (ho : (Held.guards cur ++ others ++ w.jobGuards).Perm w.guards) :
    (Held.guards held' ++ others ++ w'.jobGuards).Perm w'.guards := by
  cases h with
  | idle _ hg _ =>
    rw [hg.jobs, hg.guards]
    exact ho
  | worked g hg _ =>
    rw [hg.jobs, hg.guards]
    exact ho
  | took g _ _ hj hg _ =>
    rw [hj, hg]
    exact ho.cons g
  | gave g _ _ hj hg _ =>
    rw [hj, hg]
    have hnd : (g :: (others ++ w.jobGuards)).Nodup := (List.append_assoc [g] others w.jobGuards ▸ ho).nodup_iff.2 hw.guards_nodup
    have hg' : ∀ g' ∈ others ++ w.jobGuards, decide (g' ≠ g) = true := fun g' hg' =>
      decide_eq_true fun he => (List.nodup_cons.1 hnd).1 (he ▸ hg')
    have hp := ho.filter (· ≠ g)
    rw [List.append_assoc, List.filter_append, List.filter_eq_self.2 hg'] at hp
    simpa [Held.guards] using hp
  | handed g _ _ hj hg _ =>
    rw [hj, hg]
    refine List.Perm.trans ?_ ho
    simp only [Held.guards, List.nil_append, List.cons_append]
    rw [← List.append_assoc]
    exact List.perm_append_singleton g _

/-- At the sites whose guards others have, a move at most registers a service: one guard has one owner. -/
theorem grows_others (h : Effect P w w' cur held') (hw : w.Sane) {others : List Guard}
    (ho : (Held.guards cur ++ others).Perm w.guards) {g : Guard} (hg : g ∈ others) :
    P.Grows (some (g, w.site g.url)) (some (g, w'.site g.url)) := by
  refine h.grows g fun g' hg' hu => ?_
  have hlive : g ∈ w.guards := ho.subset (List.mem_append_right _ hg)
  have hlive' : g' ∈ w.guards := ho.subset (List.mem_append_left _ hg')
  obtain rfl := hw.eq_of_url_eq hlive hlive' hu
  exact List.disjoint_of_nodup_append (ho.nodup_iff.2 hw.guards_nodup) hg' hg

end Effect

/-! ## States in custody -/

/-- Which events may happen. -/
def Regime.AllowsEvent (P : Regime) : Event → Prop
  | .called _ op => P.AdmitsCall op
  | .moved _ m => P.AllowsMove m
  | .cut _ _ => P.lossy
  | .began _ _ | .ended _ _ | .passed _ => True

/-- Where change sets may get lost, whatever happens is allowed but for calls. -/
theorem Regime.allowsEvent_of_lossy {e : Event} (hl : P.lossy) (ha : ∀ id op, e = .called id op → P.AdmitsCall op) :
    P.AllowsEvent e := by
  cases e with
  | called id op => exact ha id op rfl
  | moved id m =>
    cases m with
    | answered r a =>
      cases r with
      | apply url c =>
        cases a with
        | error e => exact hl
        | ok u => trivial
      | _ => trivial
    | expired r =>
      cases r with
      | apply url c => exact hl
      | _ => trivial
    | listened | took | yielded | woken => trivial
  | cut id reason => exact hl
  | began | ended | passed => trivial

/-- What is left of a task keeps a regime with the guards that the task holds. -/
def Task.Kept (P : Regime) (w : World) (t : Task) : Prop :=
  ∃ held, Held.guards held = t.guards ∧ t.program.Keeps P held (fun _ h => h = none) ∧ held.Current P w

/-- A state with every guard in custody and every site in order. -/
structure State.Kept (P : Regime) (x : State) : Prop where
  sane : x.world.Sane
  /-- Each live guard is held by one task or handed to one job, and no other guard is. -/
  owners : (x.tasks.flatMap Task.guards ++ x.world.jobGuards).Perm x.world.guards
  tasks : ∀ t ∈ x.tasks, t.Kept P x.world
  jobs : ∀ g ∈ x.world.jobGuards, P.sound g.url (x.world.site g.url)
  free : ∀ url, url ∉ x.world.inFlight → P.sound url (x.world.site url)
  ended : ∀ t ∈ x.ended, t.guards = []

/-- A sound site stays sound when others register a service there. -/
theorem Regime.Grows.sound {g : Guard} {σ σ' : Site} (h : P.Grows (some (g, σ)) (some (g, σ'))) (hσ : P.sound g.url σ) :
    P.sound g.url σ' := by
  obtain ⟨_, he, hσ'⟩ := (P.inOrder g).stable ⟨σ, rfl, hσ⟩ h
  cases he
  exact hσ'

/-- What a task holds stays current while sites at most grow. -/
theorem Held.Current.of_grows {held : Held} (h : held.Current P w)
    (hs : ∀ g ∈ Held.guards held, P.Grows (some (g, w.site g.url)) (some (g, w'.site g.url))) : held.Current P w' := by
  rcases held with _ | ⟨g, σ⟩
  · exact h
  · exact h.trans (hs g (List.mem_singleton_self g))

/-- A task keeps the regime if others do no more at its sites than the regime allows them to. -/
theorem Task.Kept.of_grows {t : Task} (h : t.Kept P w)
    (hs : ∀ g ∈ t.guards, P.Grows (some (g, w.site g.url)) (some (g, w'.site g.url))) : t.Kept P w' := by
  obtain ⟨held, hg, hk, hc⟩ := h
  exact ⟨held, hg, hk, hc.of_grows fun g hg' => hs g (hg ▸ hg')⟩

theorem Task.guards_move (t : Task) (m : Move) (p : Program Report) : (t.move m p).guards = m.guards t.guards := by
  simp [Task.guards, Task.move]

/-- The guards of tasks and jobs, those of one task first. -/
theorem Task.perm_guards (before after : List Task) (t : Task) (jobs : List Guard) :
    ((before ++ t :: after).flatMap Task.guards ++ jobs).Perm
      (t.guards ++ (before.flatMap Task.guards ++ after.flatMap Task.guards) ++ jobs) := by
  rw [List.flatMap_append, List.flatMap_cons, ← List.append_assoc, ← List.append_assoc]
  exact List.Perm.append_right _ (List.Perm.append_right _ List.perm_append_comm)

/-- A program that may be cut short is where its site is in order, if change sets may get lost. -/
theorem Program.Interruptible.safe {α : Type} {p : Program α} {held : Held} {Q : α → Held → Prop} (h : p.Interruptible)
    (hk : p.Keeps P held Q) (hc : held.Current P w) : P.Safe (Held.now w held) := by
  cases h with
  | request h =>
    cases h with
    | ask => exact (hk _ hc).1
    | within => exact (hk _ hc).1
  | wait =>
    obtain ⟨rfl, _⟩ := hk
    exact safe_none

/-! ## What a step preserves -/

namespace State.Kept

/-- Where change sets may get lost, the site of any URL is sound at any time, also while someone works on the URL. -/
theorem sound_of_lossy {x : State} (h : x.Kept P) (hl : P.lossy) (url : AccessUrl) : P.sound url (x.world.site url) := by
  by_cases hu : url ∈ x.world.inFlight
  · rw [h.sane.marks] at hu
    obtain ⟨g, hg, rfl⟩ := List.mem_map.1 hu
    rcases List.mem_append.1 (h.owners.symm.subset hg) with ht | hj
    · obtain ⟨t, ht, hg⟩ := List.mem_flatMap.1 ht
      obtain ⟨held, hguards, hk, hc⟩ := h.tasks t ht
      rw [← hguards] at hg
      rcases held with _ | ⟨g', σ⟩
      · nomatch hg
      obtain rfl := List.mem_singleton.1 hg
      -- who holds a guard is about to ask for something, and may be cut short there
      have hsafe : P.Safe (some (g, x.world.site g.url)) := by
        cases hp : t.program with
        | done report =>
          rw [hp] at hk
          nomatch (hk : some (g, σ) = none)
        | ask r k =>
          rw [hp] at hk
          exact (hk _ hc).1
        | within d r k =>
          rw [hp] at hk
          exact (hk _ hc).1
        | hold url vigil k =>
          rw [hp] at hk
          nomatch hk.1
      exact hsafe hl g _ rfl
    · exact h.jobs g hj
  · exact h.free url hu

/-- Custody depends on sites and guards only. -/
theorem of_alike {ts past : List Task} (h : State.Kept P ⟨w, ts, past⟩) (ha : w.Alike w') : State.Kept P ⟨w', ts, past⟩ := by
  have hs := ha.site
  have hg := ha.guards
  refine ⟨⟨ha.registry ▸ h.sane.keyed, ?_, hg.inFlight ▸ h.sane.nodup⟩, ?_, ?_, ?_, ?_, h.ended⟩
  · exact hg.inFlight ▸ hg.guards ▸ h.sane.marks
  · exact hg.jobs ▸ hg.guards ▸ h.owners
  · exact fun t ht => (h.tasks t ht).of_grows fun g _ => hs ▸ .same _
  · intro g hg'
    rw [hs]
    exact h.jobs g (hg.jobs ▸ hg')
  · intro url hu
    rw [hs]
    exact h.free url (hg.inFlight ▸ hu)

/-- A new task that holds nothing yet. -/
theorem call {ts past : List Task} (h : State.Kept P ⟨w, ts, past⟩) (s : Scheduler) (id : Nat) {op : Operation}
    (ha : P.AdmitsCall op) : State.Kept P ⟨w, ts ++ [.start s id (.operation op)], past⟩ := by
  have hkeeps : (Origin.program s (.operation op)).Keeps P none fun _ h => h = none := Origin.keeps_program s ⟨rfl, ha⟩
  refine ⟨h.sane, ?_, ?_, h.jobs, h.free, h.ended⟩
  · simpa [Task.guards, Task.start, Origin.guards] using h.owners
  · intro t ht
    rcases List.mem_append.1 ht with ht | ht
    · exact h.tasks t ht
    · obtain rfl := List.mem_singleton.1 ht
      exact ⟨none, rfl, hkeeps, .same none⟩

/-- A job that begins takes its guard into the custody of its task. -/
theorem begin {ts past : List Task} (h : State.Kept P ⟨w, ts, past⟩) (s : Scheduler) {before after : List (Nat × Job)} {id : Nat}
    {job : Job} (hs : w.spawned = before ++ (id, job) :: after) :
    State.Kept P ⟨{ w with spawned := before ++ after }, ts ++ [.start s id (.job job)], past⟩ := by
  have hjobs : w.jobGuards = before.flatMap (fun x => (Origin.job x.2).guards) ++ ((Origin.job job).guards ++
      after.flatMap fun x => (Origin.job x.2).guards) := by
    simp [World.jobGuards, hs]
  have hjobs' : World.jobGuards { w with spawned := before ++ after } = before.flatMap (fun x => (Origin.job x.2).guards) ++
      after.flatMap fun x => (Origin.job x.2).guards := by
    simp [World.jobGuards]
  have hheld : ∃ held, Held.guards held = (Origin.job job).guards ∧ (Origin.job job).Holds P held ∧ Held.now w held = held := by
    cases job with
    | tick g =>
      have hg : g ∈ w.jobGuards := by simp [hjobs, Origin.guards]
      exact ⟨some (g, w.site g.url), rfl, ⟨_, rfl, h.jobs g hg⟩, rfl⟩
    | round => exact ⟨none, rfl, rfl, rfl⟩
  refine ⟨⟨h.sane.keyed, h.sane.marks, h.sane.nodup⟩, ?_, ?_, ?_, h.free, h.ended⟩
  · refine List.Perm.trans ?_ h.owners
    rw [hjobs, hjobs', List.flatMap_append, List.append_assoc]
    refine List.Perm.append_left _ ?_
    rw [← List.append_assoc, ← List.append_assoc]
    exact List.Perm.append_right _ (by simpa [Task.guards, Task.start] using List.perm_append_comm)
  · intro t ht
    rcases List.mem_append.1 ht with ht | ht
    · exact h.tasks t ht
    · obtain rfl := List.mem_singleton.1 ht
      obtain ⟨held, hg, hh, hn⟩ := hheld
      refine ⟨held, hg, Origin.keeps_program s hh, ?_⟩
      show P.Grows held (Held.now w held)
      rw [hn]
      exact .same held
  · intro g hg
    refine h.jobs g ?_
    rw [hjobs'] at hg
    rw [hjobs]
    rcases List.mem_append.1 hg with hg | hg
    · exact List.mem_append_left _ hg
    · exact List.mem_append_right _ (List.mem_append_right _ hg)

/-- At the sites whose guards others have, a move at most registers a service. -/
theorem grows_of_move {before after past : List Task} {t : Task} {m : Move} {p : Program Report}
    (h : State.Kept P ⟨w, before ++ t :: after, past⟩) (hstep : Program.Step w t.program m w' p) (hm : P.AllowsMove m) :
    ∀ g ∈ (before.flatMap Task.guards ++ after.flatMap Task.guards) ++ w.jobGuards,
      P.Grows (some (g, w.site g.url)) (some (g, w'.site g.url)) := by
  obtain ⟨held, hg, hk, hc⟩ := h.tasks t (List.mem_append_right _ List.mem_cons_self)
  obtain ⟨held', _, heff, _⟩ := hstep.effect h.sane h.free hk hc hm
  have hcur : Held.guards (Held.now w held) = t.guards := (Held.guards_now w held).trans hg
  intro g hg
  refine heff.grows_others h.sane ?_ hg
  rw [hcur, ← List.append_assoc]
  exact (Task.perm_guards before after t w.jobGuards).symm.trans h.owners

/-- A move of one task leaves the others as they are, and the sites that nobody holds in order. -/
theorem move {before after past : List Task} {t : Task} {m : Move} {p : Program Report}
    (h : State.Kept P ⟨w, before ++ t :: after, past⟩) (hstep : Program.Step w t.program m w' p) (hm : P.AllowsMove m) :
    State.Kept P ⟨w', before ++ t.move m p :: after, past⟩ := by
  obtain ⟨held, hg, hk, hc⟩ := h.tasks t (List.mem_append_right _ List.mem_cons_self)
  obtain ⟨held', hk', heff, hg'⟩ := hstep.effect h.sane h.free hk hc hm
  have hcur : Held.guards (Held.now w held) = t.guards := (Held.guards_now w held).trans hg
  have hmove : (t.move m p).guards = Held.guards held' := by rw [Task.guards_move, hg', hg]
  have howners : (Held.guards (Held.now w held) ++ (before.flatMap Task.guards ++ after.flatMap Task.guards) ++ w.jobGuards).Perm
      w.guards := by
    rw [hcur]
    exact (Task.perm_guards before after t w.jobGuards).symm.trans h.owners
  have hlive : ∀ g ∈ Held.guards (Held.now w held), g ∈ w.guards := fun g hg =>
    howners.subset (List.mem_append_left _ (List.mem_append_left _ hg))
  have hothers := h.grows_of_move hstep hm
  refine ⟨heff.sane h.sane (h.sane.keyed.edit hstep.edit) hlive, ?_, ?_, ?_, ?_, h.ended⟩
  · refine (Task.perm_guards before after _ w'.jobGuards).trans ?_
    rw [hmove]
    exact heff.owners h.sane howners
  · intro u hu
    -- the guards of the others are not among those of the task, so their sites only grow
    have hold : ∀ u, u ∈ before ∨ u ∈ after → u.Kept P w' := by
      intro u hu
      have hmem : u ∈ before ++ t :: after := by
        rcases hu with hu | hu
        · exact List.mem_append_left _ hu
        · exact List.mem_append_right _ (List.mem_cons_of_mem t hu)
      refine (h.tasks u hmem).of_grows fun g hg => hothers g (List.mem_append_left _ ?_)
      rcases hu with hu | hu
      · exact List.mem_append_left _ (List.mem_flatMap.2 ⟨u, hu, hg⟩)
      · exact List.mem_append_right _ (List.mem_flatMap.2 ⟨u, hu, hg⟩)
    rcases List.mem_append.1 hu with hu | hu
    · exact hold u (Or.inl hu)
    · rcases List.mem_cons.1 hu with rfl | hu
      · exact ⟨held', hmove.symm, hk', heff.current⟩
      · exact hold u (Or.inr hu)
  · intro g hg
    rcases heff.mem_jobGuards hg with hg | hσ
    · exact (hothers g (List.mem_append_right _ hg)).sound (h.jobs g hg)
    · exact hσ
  · intro url hu
    rcases heff.freed hu with hu | hσ
    · have hne : ∀ g ∈ Held.guards (Held.now w held), url ≠ g.url := by
        rintro g hg rfl
        exact hu (h.sane.mem_inFlight (hlive g hg))
      exact (heff.grows ⟨0, url⟩ hne).sound (h.free url hu)
    · exact hσ

/-- A task that ends holds nothing. -/
theorem finish {before after past : List Task} {t : Task} {report : Report} (h : State.Kept P ⟨w, before ++ t :: after, past⟩)
    (hr : t.program = .done report) :
    State.Kept P ⟨(report.tick?.map (w.finish t.id)).getD w, before ++ after, past ++ [t]⟩ := by
  obtain ⟨held, hg, hk, hc⟩ := h.tasks t (List.mem_append_right _ List.mem_cons_self)
  rw [hr] at hk
  obtain rfl : held = none := hk
  have hkept : State.Kept P ⟨w, before ++ after, past ++ [t]⟩ := by
    refine ⟨h.sane, ?_, fun u hu => h.tasks u ?_, h.jobs, h.free, fun u hu => ?_⟩
    · have ho := h.owners
      rw [List.flatMap_append, List.flatMap_cons, ← hg] at ho
      rw [List.flatMap_append]
      exact ho
    · rcases List.mem_append.1 hu with hu | hu
      · exact List.mem_append_left _ hu
      · exact List.mem_append_right _ (List.mem_cons_of_mem t hu)
    · rcases List.mem_append.1 hu with hu | hu
      · exact h.ended u hu
      · obtain rfl := List.mem_singleton.1 hu
        exact hg.symm
  cases report.tick? with
  | none => exact hkept
  | some r => exact hkept.of_alike ⟨rfl, rfl, ⟨rfl, rfl, rfl⟩⟩

/-- A task that is cut short gives back what it holds. -/
theorem cut {before after past : List Task} {t : Task} (h : State.Kept P ⟨w, before ++ t :: after, past⟩)
    (hi : t.program.Interruptible) (hl : P.lossy) (reason : String) :
    State.Kept P ⟨w, before ++ { t with cut := some reason, program := unwind reason t.permits t.guards } :: after, past⟩ := by
  obtain ⟨held, hg, hk, hc⟩ := h.tasks t (List.mem_append_right _ List.mem_cons_self)
  have hguards : Held.guards (Held.now w held) = t.guards := (Held.guards_now w held).trans hg
  refine ⟨h.sane, ?_, ?_, h.jobs, h.free, h.ended⟩
  · have ho := h.owners
    rw [List.flatMap_append, List.flatMap_cons] at ho ⊢
    exact ho
  · intro u hu
    rcases List.mem_append.1 hu with hu | hu
    · exact h.tasks u (List.mem_append_left _ hu)
    · rcases List.mem_cons.1 hu with rfl | hu
      · refine ⟨Held.now w held, hguards, ?_, ?_⟩
        · rw [← hguards]
          exact keeps_unwind reason t.permits fun g σ he => hi.safe hk hc hl g σ he
        · cases held <;> exact .same _
      · exact h.tasks u (List.mem_append_right _ (List.mem_cons_of_mem t hu))

/-- No step breaks the custody. -/
theorem step {s : Scheduler} {x y : State} {e : Event} (h : x.Kept P) (hs : State.Step s x e y) (he : P.AllowsEvent e) :
    y.Kept P := by
  cases hs with
  | call w ts past op => exact (h.call s w.taskCount he).of_alike ⟨rfl, rfl, ⟨rfl, rfl, rfl⟩⟩
  | begin hj => exact h.begin s hj
  | move hp => exact h.move hp he
  | finish hr => exact h.finish hr
  | cut hi reason => exact h.cut hi he reason
  | pass w ts past t => exact h.of_alike ⟨rfl, rfl, ⟨rfl, rfl, rfl⟩⟩

end State.Kept

/-! ## Runs -/

/-- A state before anything has begun: nobody is at work, and every service is kept under its own URL. -/
structure State.Quiet (x : State) : Prop where
  tasks : x.tasks = []
  ended : x.ended = []
  spawned : x.world.spawned = []
  guards : x.world.guards = []
  inFlight : x.world.inFlight = []
  keyed : x.world.registry.Keyed

/-- Before anything has begun, all is quiet. -/
theorem State.quiet_initial (permits : Permits) : State.Quiet ⟨World.initial permits, [], []⟩ :=
  ⟨rfl, rfl, rfl, rfl, rfl, Registry.keyed_empty⟩

/-- A quiet state has no guard to be kept, so its sites need only be sound. -/
theorem State.Quiet.kept {x : State} (h : x.Quiet) (hs : ∀ url, P.sound url (x.world.site url)) : x.Kept P where
  sane := ⟨h.keyed, by simp [h.inFlight, h.guards], by simp [h.inFlight]⟩
  owners := by simp [h.tasks, h.guards, World.jobGuards, h.spawned]
  tasks := by simp [h.tasks]
  jobs := by simp [World.jobGuards, h.spawned]
  free := fun url _ => hs url
  ended := by simp [h.ended]

/-- No run breaks the custody. -/
theorem State.Run.kept {s : Scheduler} {start x : State} {es : List Event} (h : State.Run s start es x) (h₀ : start.Kept P)
    (he : ∀ e ∈ es, P.AllowsEvent e) : x.Kept P :=
  h.invariant h₀ fun e hm _ _ hk hs => hk.step hs (he e hm)

end CatalogSync.Engine
