import CatalogSync.Proofs.Catalog.Patch
import CatalogSync.Proofs.Engine.Custody
import CatalogSync.Proofs.Engine.Replay

/-!
# The catalog mirrors the registry

While nobody works on a URL, the catalog shows exactly the snapshot that the registry has for it (`State.Run.mirrors`), in every run
from the empty state in which services are registered as they are built, the catalog refuses nothing, and no change set is given up
on. While someone works on the URL, the catalog lags behind by the change set that is owed.
-/

namespace CatalogSync

/-- A service as callers build it. -/
inductive Service.Built : Service → Prop where
  | fresh (url : AccessUrl) : Built (.fresh url)
  | withAuth {s : Service} (h : Built s) (auth : AuthMethod) : Built (s.withAuth auth)
  | withOrigin {s : Service} (h : Built s) (registry : AccessUrl) : Built (s.withOrigin registry)

/-- A service as callers build it was never synchronized. -/
theorem Service.Built.snapshot_eq_none {s : Service} (h : s.Built) : s.snapshot = none := by
  induction h with
  | fresh url => rfl
  | withAuth _ _ ih | withOrigin _ _ ih => exact ih

namespace Engine

/-- The entries that an entry of the registry stands for: those of its snapshot, and none without a snapshot. -/
def shownBy (entry : Option Service) : List Entry :=
  ((entry.bind Service.snapshot).map fun x => x.graph.entries).getD []

/-- The catalog shows what the registry has, once it has what is owed to it. -/
def mirroring : Regime where
  admits s := s.snapshot = none
  lossy := False
  sound _ σ := σ.shelf.Shows (shownBy σ.entry)
  owed _ c σ := (σ.shelf.apply c).Shows (shownBy σ.entry)
  admits_discovered _ _ _ := rfl
  sound_register := by
    intro _ shelf s hs ha _
    simpa [shownBy, ha] using hs
  owed_register := by
    intro _ c shelf s ho ha _
    simpa [shownBy, ha] using ho
  owed_of_diff := by
    intro _ shelf s new c hs _ hd _
    refine Graph.shows_of_diff hd ?_
    rw [Option.map_map]
    exact hs
  owed_of_remove := by
    intro _ shelf s hs _
    cases hx : s.snapshot with
    | none =>
      have hc : (cleanupOf s).isEmpty = true := by simp [cleanupOf, hx, ChangeSet.empty, ChangeSet.isEmpty]
      show (shelf.apply (cleanupOf s)).Shows []
      rw [Shelf.apply_of_isEmpty shelf hc]
      simpa [shownBy, hx] using hs
    | some x =>
      have hc : cleanupOf s = x.graph.removal := by simp [cleanupOf, hx]
      rw [hc]
      exact Graph.shows_of_removal (by simpa [shownBy, hx] using hs)
  sound_of_isEmpty := by
    intro _ c σ ho hc
    rwa [Shelf.apply_of_isEmpty σ.shelf hc] at ho
  sound_of_apply := fun ho => ho
  sound_of_lossy := False.elim

/-- Which calls are made: those that register services as they are built. -/
def Operation.Builds : Operation → Prop
  | .register service | .schedule service => service.Built
  | .synchronize _ | .unregister _ | .discover _ _ | .round => True

/-- The call that is made in an event. -/
def Event.call? : Event → Option Operation
  | .called _ op => some op
  | _ => none

/-- Whether a change set may get lost in an event: the catalog refuses it, it is given up on, or a task is cut short. -/
def Event.losesChanges : Event → Bool
  | .moved _ (.answered (.apply _ _) (.error _)) => true
  | .moved _ (.expired (.apply _ _)) => true
  | .cut _ _ => true
  | _ => false

theorem Event.allowed {e : Event} (hb : ∀ op, e.call? = some op → op.Builds) (hl : e.losesChanges = false) :
    mirroring.AllowsEvent e := by
  cases e with
  | called id op =>
    have h := hb op rfl
    cases op with
    | register service | schedule service => exact h.snapshot_eq_none
    | synchronize | unregister | discover | round => trivial
  | moved id m =>
    cases m with
    | answered r a =>
      cases r with
      | apply url c =>
        cases a with
        | error e => nomatch hl
        | ok u => trivial
      | _ => trivial
    | expired r =>
      cases r with
      | apply url c => nomatch hl
      | _ => trivial
    | listened | took | yielded | woken => trivial
  | cut id reason => nomatch hl
  | began | ended | passed => trivial

/-- In every state of a run in which services are registered as they are built and no change set gets lost, the catalog has for a
URL that nobody works on exactly the entries of the snapshot in the registry, and none if the URL is not registered or has no
snapshot. -/
theorem State.Run.mirrors {s : Scheduler} {permits : Permits} {es : List Event} {x : State}
    (h : State.Run s ⟨World.initial permits, [], []⟩ es x) (hb : ∀ op ∈ es.filterMap Event.call?, op.Builds)
    (hl : es.any Event.losesChanges = false) (url : AccessUrl) (hu : url ∉ x.world.inFlight) :
    (∀ service snapshot, x.world.registry.get? url = some service → service.snapshot = some snapshot →
      (x.world.catalog.entries url).Shows snapshot.graph.entries) ∧
    ((∀ service, x.world.registry.get? url = some service → service.snapshot = none) → x.world.catalog.entries url = []) := by
  have hstart : State.Kept mirroring ⟨World.initial permits, [], []⟩ :=
    (State.quiet_initial permits).kept fun _ => (Shelf.shows_nil_iff _).2 rfl
  have hallowed : ∀ e ∈ es, mirroring.AllowsEvent e := by
    intro e he
    refine Event.allowed (fun op hop => hb op (List.mem_filterMap.2 ⟨e, he, hop⟩)) ?_
    exact Bool.eq_false_iff.2 (List.any_eq_false.1 hl e he)
  have hsound : (x.world.catalog.entries url).Shows (shownBy (x.world.registry.get? url)) :=
    (h.kept hstart hallowed).free url hu
  constructor
  · intro service snapshot hs hx
    simpa [shownBy, hs, hx] using hsound
  · intro hn
    rw [← Shelf.shows_nil_iff]
    cases hs : x.world.registry.get? url with
    | none => simpa [shownBy, hs] using hsound
    | some service => simpa [shownBy, hs, hn service hs] using hsound

/-- A service is registered and ticked twice, and its submodel has another child the second time; a third tick is skipped while the
second is under way. -/
theorem State.Run.mirrors_second_tick :
    let s : Scheduler := ⟨⟨false, 1000⟩, false, [], 1000⟩
    let url : AccessUrl := ⟨"http://host"⟩
    let new : Graph := ⟨[(Resource.root .submodel "sm" .null).withChild "b" .null]⟩
    ∃ es x, State.Run s ⟨World.initial (.ofNat 1), [], []⟩ es x ∧ (∀ op ∈ es.filterMap Event.call?, op.Builds) ∧
      es.any Event.losesChanges = false ∧ url ∉ x.world.inFlight ∧
      x.world.catalog.entries url = [⟨.root .submodel "sm", .null⟩, ⟨(Reference.root .submodel "sm").child "b", .null⟩] ∧
      (x.world.catalog.entries url).Shows new.entries := by
  intro s url new
  let old : Graph := ⟨[(Resource.root .submodel "sm" .null).withChild "a" .null]⟩
  let setup : List Choice := [.call (.register (.fresh url)), .move 0 .go, .finish 0]
  let tick (g : Graph) : List Choice := [.call (.synchronize url), .move 0 .go, .move 0 .go, .move 0 .go,
    .move 0 (.fetched (.ok (.ok g))), .move 0 .go, .move 0 .go, .move 0 .go]
  let skipped : List Choice := [.call (.synchronize url), .move 1 .go, .finish 1]
  let rest : List Choice := [.move 0 .go, .move 0 .go, .move 0 .go, .finish 0]
  let choices : List Choice := setup ++ tick old ++ rest ++ tick new ++ skipped ++ rest
  obtain ⟨es, x, hrun, hx⟩ := State.exists_run (s := s) (x := ⟨World.initial (.ofNat 1), [], []⟩)
    (b := ([.register (.fresh url), .synchronize url, .synchronize url, .synchronize url], false, [],
      [⟨.root .submodel "sm", .null⟩, ⟨(Reference.root .submodel "sm").child "b", .null⟩],
      some ⟨url, .none, some ⟨1, new⟩, some 0, none⟩))
    (fun es x => (es.filterMap Event.call?, es.any Event.losesChanges, x.world.inFlight, x.world.catalog.entries url,
      x.world.registry.get? url)) (by cbv : (State.replay s _ choices).map _ = _)
  obtain ⟨hcalls, hlost, hfree, hentries, hservice⟩ : _ ∧ _ ∧ _ ∧ _ ∧ _ := by simpa only [Prod.mk.injEq] using hx
  have hbuilt : ∀ op ∈ es.filterMap Event.call?, op.Builds := by
    rw [hcalls]
    simp [Operation.Builds, Service.Built.fresh]
  have hu : url ∉ x.world.inFlight := by simp [hfree]
  exact ⟨es, x, hrun, hbuilt, hlost, hu, hentries, (hrun.mirrors hbuilt hlost url hu).1 _ _ hservice rfl⟩

end Engine

end CatalogSync
