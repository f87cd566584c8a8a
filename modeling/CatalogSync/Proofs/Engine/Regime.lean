import CatalogSync.Engine.Interleaving
import CatalogSync.Proofs.Engine.Calculus

/-!
# Regimes

Whoever holds the guard of a URL has its site, the entry in the registry and the shelf in the catalog, to itself: all that others can
do there is to register a service where none is. A `Regime` says what is true of the sites that nobody works on, what is owed between
a change of the registry and the change of the catalog that goes with it, and which services may come. `Program.Keeps` says, for
every answer that a program may get, that it keeps a regime: it touches a site only with the guard, and gives the guard away only
with the site in order.
-/

namespace CatalogSync.Engine

/-- What belongs to a URL: its entry in the registry and its shelf in the catalog. -/
structure Site where
  entry : Option Service
  shelf : Shelf

/-- The site of a URL. -/
def World.site (w : World) (url : AccessUrl) : Site := ⟨w.registry.get? url, w.catalog.entries url⟩

/-- What a task holds: nothing, or a guard, with the site of its URL. -/
abbrev Held := Option (Guard × Site)

/-- The guards among what a task holds. -/
def Held.guards : Held → List Guard
  | none => []
  | some (g, _) => [g]

/-- What must hold of sites, and what may happen to them. -/
structure Regime where
  /-- Which services may be registered. -/
  admits : Service → Prop
  /-- Whether change sets may get lost: refused, given up on, or left by a task that was cut short. -/
  lossy : Prop
  /-- What holds of the site of a URL that nobody works on. -/
  sound : AccessUrl → Site → Prop
  /-- What holds of a site for which a change set is owed to the catalog. -/
  owed : AccessUrl → ResourceChanges → Site → Prop
  admits_discovered : ∀ registry auth url, admits (Discovery.discovered registry auth url)
  sound_register : ∀ {url shelf s}, sound url ⟨none, shelf⟩ → admits s → s.url = url → sound url ⟨some s, shelf⟩
  owed_register : ∀ {url c shelf s}, owed url c ⟨none, shelf⟩ → admits s → s.url = url → owed url c ⟨some s, shelf⟩
  owed_of_diff : ∀ {url shelf s new c}, sound url ⟨some s, shelf⟩ → s.url = url →
    Graph.diff (s.snapshot.map Snapshot.graph) new.graph = .ok c → ∀ time,
    owed url c ⟨some { s with snapshot := some new, lastSynced := some time }, shelf⟩
  owed_of_remove : ∀ {url shelf s}, sound url ⟨some s, shelf⟩ → s.url = url → owed url (cleanupOf s) ⟨none, shelf⟩
  sound_of_isEmpty : ∀ {url c σ}, owed url c σ → c.isEmpty = true → sound url σ
  sound_of_apply : ∀ {url c σ}, owed url c σ → sound url { σ with shelf := σ.shelf.apply c }
  sound_of_lossy : lossy → ∀ {url c σ}, owed url c σ → sound url σ

namespace Regime

/-- What others may do to what a task holds: register a service at the site, if there is none. -/
inductive Grows (P : Regime) : Held → Held → Prop where
  | same (held : Held) : P.Grows held held
  | registered {g : Guard} {shelf : Shelf} {s : Service} (ha : P.admits s) (hu : s.url = g.url) :
    P.Grows (some (g, ⟨none, shelf⟩)) (some (g, ⟨some s, shelf⟩))

variable (P : Regime)

/-- What is held may be left behind by a task that is cut short. -/
def Safe (held : Held) : Prop := P.lossy → ∀ g σ, held = some (g, σ) → P.sound g.url σ

/-- Whether a deadline may take effect before a request is answered: a change set is not given up on, unless it may get lost. -/
def MayExpire : Request → Prop
  | .apply _ _ => P.lossy
  | _ => True

/-- That a request is allowed, and what comes next holds of every answer and of what is held then. -/
def Reply (held : Held) : (r : Request) → (r.Answer → Held → Prop) → Prop
  | .service url, K => ∃ g σ, held = some (g, σ) ∧ g.url = url ∧ ((∀ s, σ.entry = some s → s.url = url) → K σ.entry held)
  | .register s, K => held = none ∧ P.admits s ∧ ∀ isNew, K isNew none
  | .remove url, K => ∃ g σ, held = some (g, σ) ∧ g.url = url ∧
      ((∀ s, σ.entry = some s → s.url = url) → K σ.entry (some (g, { σ with entry := none })))
  | .swap url expected new, K => ∃ g σ, held = some (g, σ) ∧ g.url = url ∧
      (∀ s, σ.entry = some s → s.snapshot.map Snapshot.id = expected.map Snapshot.id → ∀ time,
        K (.ok s.snapshot) (some (g, { σ with entry := some { s with snapshot := some new, lastSynced := some time } }))) ∧
      ((∀ s, σ.entry = some s → s.snapshot.map Snapshot.id ≠ expected.map Snapshot.id) → ∀ e, K (.error e) held)
  | .snapshot graph, K => ∀ id, K ⟨id, graph⟩ held
  | .tryMark url, K => held = none ∧ K none none ∧ ∀ g σ, g.url = url → P.sound url σ → K (some g) (some (g, σ))
  | .unmark g, K => ∃ σ, held = some (g, σ) ∧ P.sound g.url σ ∧ K () none
  | .spawn (.tick g), K => ∃ σ, held = some (g, σ) ∧ P.sound g.url σ ∧ ∀ task, K task none
  | .fetch url _, K => (∃ g σ, held = some (g, σ) ∧ g.url = url) ∧ ∀ a, K a held
  | .apply url c, K => ∃ g σ, held = some (g, σ) ∧ g.url = url ∧ P.owed url c σ ∧
      K (.ok ()) (some (g, { σ with shelf := σ.shelf.apply c })) ∧ (P.lossy → ∀ e, K (.error e) held)
  | .now, K | .sleep _, K | .services, K | .resolve _, K | .wake, K | .report _ _, K | .spawn .round, K | .join _, K | .queue, K
  | .permit _, K | .leave, K | .advertised _ _, K => ∀ a, K a held

/-- That a request may be made with what is held, whatever others do there until it is answered or its deadline takes effect. -/
def Ask (held : Held) (r : Request) (K : r.Answer → Held → Prop) (E : Held → Prop) : Prop :=
  ∀ held', P.Grows held held' → P.Safe held' ∧ P.Reply held' r K ∧ (P.MayExpire r → E held')

end Regime

namespace Regime

variable {P : Regime}

theorem Grows.trans {x y z : Held} (h : P.Grows x y) (h' : P.Grows y z) : P.Grows x z := by
  cases h with
  | same => exact h'
  | registered ha hu =>
    cases h' with
    | same => exact .registered ha hu

/-- A task that holds nothing is out of the reach of others. -/
theorem Grows.eq_none {held : Held} (h : P.Grows none held) : held = none := by
  cases h
  rfl

/-- Who holds nothing has nothing that others could spoil. -/
theorem safe_none : P.Safe none := fun _ _ _ h => nomatch h

/-- A sound site is safe from others. -/
theorem safe_of_sound {g : Guard} {σ : Site} (h : P.sound g.url σ) : P.Safe (some (g, σ)) := by
  intro _ g' σ' he
  cases he
  exact h

theorem Reply.mono {held : Held} {r : Request} {K K' : r.Answer → Held → Prop} (hK : ∀ a h, K a h → K' a h)
    (h : P.Reply held r K) : P.Reply held r K' := by
  cases r with
  | service url =>
    obtain ⟨g, σ, he, hu, hk⟩ := h
    exact ⟨g, σ, he, hu, fun hs => hK _ _ (hk hs)⟩
  | register s =>
    obtain ⟨he, ha, hk⟩ := h
    exact ⟨he, ha, fun isNew => hK _ _ (hk isNew)⟩
  | remove url =>
    obtain ⟨g, σ, he, hu, hk⟩ := h
    exact ⟨g, σ, he, hu, fun hs => hK _ _ (hk hs)⟩
  | swap url expected new =>
    obtain ⟨g, σ, he, hu, hok, herr⟩ := h
    exact ⟨g, σ, he, hu, fun s hs hid time => hK _ _ (hok s hs hid time), fun hs e => hK _ _ (herr hs e)⟩
  | tryMark url =>
    obtain ⟨he, hn, hk⟩ := h
    exact ⟨he, hK _ _ hn, fun g σ hu hs => hK _ _ (hk g σ hu hs)⟩
  | unmark g =>
    obtain ⟨σ, he, hs, hk⟩ := h
    exact ⟨σ, he, hs, hK _ _ hk⟩
  | spawn job =>
    cases job with
    | tick g =>
      obtain ⟨σ, he, hs, hk⟩ := h
      exact ⟨σ, he, hs, fun task => hK _ _ (hk task)⟩
    | round => exact fun a => hK _ _ (h a)
  | fetch url headers => exact ⟨h.1, fun a => hK _ _ (h.2 a)⟩
  | apply url c =>
    obtain ⟨g, σ, he, hu, ho, hk, herr⟩ := h
    exact ⟨g, σ, he, hu, ho, hK _ _ hk, fun hl e => hK _ _ (herr hl e)⟩
  | snapshot graph => exact fun id => hK _ _ (h id)
  | now | sleep time | services | resolve name | wake | report pipeline failure | join task | queue | permit ticket | leave
  | advertised registry headers => exact fun a => hK _ _ (h a)

theorem Ask.mono {held : Held} {r : Request} {K K' : r.Answer → Held → Prop} {E E' : Held → Prop}
    (hK : ∀ a h, K a h → K' a h) (hE : ∀ h, E h → E' h) (h : P.Ask held r K E) : P.Ask held r K' E' := by
  intro held' hg
  obtain ⟨hs, hr, he⟩ := h held' hg
  exact ⟨hs, hr.mono hK, fun hm => hE held' (he hm)⟩

end Regime

/-- Asking as a regime allows, and waiting for a guard with nothing held. -/
def Regime.calculus (P : Regime) : Calculus Held where
  ask := P.Ask
  hold held url K := held = none ∧ ∀ g σ, g.url = url → P.sound url σ → K g (some (g, σ))
  ask_mono := Regime.Ask.mono
  hold_mono := by
    intro _ _ _ _ hK h
    exact ⟨h.1, fun g σ hu hs => hK g _ (h.2 g σ hu hs)⟩

namespace Program

/-- That a program, begun with what is held, keeps a regime, and the end it comes to. -/
abbrev Keeps (P : Regime) {α : Type} (p : Program α) (held : Held) (Q : α → Held → Prop) : Prop := p.Meets P.calculus held Q

variable {P : Regime}

/-- A request made without a guard, which others cannot disturb. -/
theorem keeps_request_none {r : Request} {Q : r.Answer → Held → Prop} (h : P.Reply none r Q) :
    (request r).Keeps P none Q := by
  intro held' hg
  obtain rfl := hg.eq_none
  exact ⟨Regime.safe_none, h, fun _ => trivial⟩

end Program

end CatalogSync.Engine
