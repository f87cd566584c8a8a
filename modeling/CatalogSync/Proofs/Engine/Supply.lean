import CatalogSync.Proofs.Engine.Mirror

/-!
# What callers register

Callers register services that they build, or copies of what the registry has or had (`State.Supplied`). In a run from an empty registry
no stored snapshot ever repeats a reference then (`State.Run.unrepeated`): a tick stores none that does, and a copy brings none back
that was not there before.
-/

namespace CatalogSync

/-- A service whose snapshot, if it has one, repeats no reference. -/
def Service.Unrepeated (s : Service) : Prop := ∀ snapshot, s.snapshot = some snapshot → snapshot.graph.references.Nodup

/-- A service as callers have it, who build it or copy one that they know. -/
inductive Service.Made (known : Service → Prop) : Service → Prop where
  | fresh (url : AccessUrl) : Made known (.fresh url)
  | copied {s : Service} (h : known s) : Made known s
  | withAuth {s : Service} (h : Made known s) (auth : AuthMethod) : Made known (s.withAuth auth)
  | withOrigin {s : Service} (h : Made known s) (registry : AccessUrl) : Made known (s.withOrigin registry)

/-- What is made of graphs that repeat no reference repeats none. -/
theorem Service.Made.unrepeated {known : Service → Prop} {s : Service} (h : s.Made known)
    (hknown : ∀ s, known s → s.Unrepeated) : s.Unrepeated := by
  induction h with
  | fresh url => exact nofun
  | copied h => exact hknown _ h
  | withAuth _ _ ih | withOrigin _ _ ih => exact ih

theorem Service.Made.mono {known known' : Service → Prop} {s : Service} (h : s.Made known) (hk : ∀ s, known s → known' s) :
    s.Made known' := by
  induction h with
  | fresh url => exact .fresh url
  | copied h => exact .copied (hk _ h)
  | withAuth _ auth ih => exact .withAuth ih auth
  | withOrigin _ registry ih => exact .withOrigin ih registry

namespace Engine

/-- No entry has a snapshot that repeats a reference. Change sets may get lost. -/
def unrepeated : Regime where
  admits := Service.Unrepeated
  lossy := True
  sound _ σ := ∀ s, σ.entry = some s → s.Unrepeated
  owed _ _ σ := ∀ s, σ.entry = some s → s.Unrepeated
  admits_discovered _ _ _ := nofun
  sound_register := by
    intro _ _ s _ ha _ s' hs
    exact Option.some.inj hs ▸ ha
  owed_register := by
    intro _ _ _ s _ ha _ s' hs
    exact Option.some.inj hs ▸ ha
  owed_of_diff := by
    intro _ _ s new c _ _ hd time s' hs snapshot hsnapshot
    obtain rfl := Option.some.inj hs
    obtain rfl := Option.some.inj hsnapshot
    rw [Graph.diff_eq] at hd
    exact ((Graph.diff_some_eq_ok_iff _ _ c).1 hd).1
  owed_of_remove _ _ := nofun
  sound_of_isEmpty h _ := h
  sound_of_apply h := h
  sound_of_lossy _ := fun h => h

/-- That the registry had a service at some time in the events of a run. -/
def State.Saw (s : Scheduler) (start : State) (es : List Event) (service : Service) : Prop :=
  ∃ es₀ y url, es₀ <+: es ∧ State.Run s start es₀ y ∧ y.world.registry.get? url = some service

/-- Which calls are made: those that register services which callers build or copy. -/
def Operation.Makes (known : Service → Prop) : Operation → Prop
  | .register service | .schedule service => service.Made known
  | .synchronize _ | .unregister _ | .discover _ _ | .round => True

/-- That callers build the services that they register, or copy what the registry had before. -/
def State.Supplied (s : Scheduler) (start : State) (es : List Event) : Prop :=
  ∀ es₁ id op es₂, es = es₁ ++ .called id op :: es₂ → op.Makes (State.Saw s start es₁)

section

variable {s : Scheduler} {start x : State} {es es' : List Event}

theorem Operation.Makes.mono {known known' : Service → Prop} {op : Operation} (h : op.Makes known)
    (hk : ∀ s, known s → known' s) : op.Makes known' := by
  cases op with
  | register service | schedule service => exact Service.Made.mono h hk
  | synchronize | unregister | discover | round => trivial

/-- What a caller saw earlier it has seen. -/
theorem State.Saw.of_prefix {service : Service} (h : State.Saw s start es service) (hp : es <+: es') :
    State.Saw s start es' service := by
  obtain ⟨es₀, y, url, h₀, hy⟩ := h
  exact ⟨es₀, y, url, h₀.trans hp, hy⟩

/-- A run whose callers are supplied was supplied before. -/
theorem State.Supplied.of_prefix (h : State.Supplied s start es') (hp : es <+: es') : State.Supplied s start es := by
  obtain ⟨rest, rfl⟩ := hp
  intro es₁ id op es₂ hes
  exact h es₁ id op (es₂ ++ rest) (by rw [hes, List.append_assoc, List.cons_append])

/-- Calls that come after events with which callers knew enough. -/
theorem State.Supplied.append (h : State.Supplied s start es) (h' : ∀ op ∈ es'.filterMap Event.call?, op.Makes (State.Saw s start es)) :
    State.Supplied s start (es ++ es') := by
  intro es₁ id op es₂ hes
  have hlater : ∀ {rest}, es' = rest ++ .called id op :: es₂ → op.Makes (State.Saw s start es) := fun hrest =>
    h' op (List.mem_filterMap.2 ⟨_, hrest ▸ List.mem_append_right _ List.mem_cons_self, rfl⟩)
  rcases List.append_eq_append_iff.1 hes with ⟨rest, rfl, hrest⟩ | ⟨rest, rfl, hrest⟩
  · exact (hlater hrest).mono fun _ hs => hs.of_prefix (List.prefix_append es rest)
  · rcases rest with _ | ⟨e, rest⟩
    · have hnil : es' = [] ++ .called id op :: es₂ := hrest.symm
      rw [List.append_nil] at hlater
      exact hlater hnil
    · obtain ⟨rfl, -⟩ := List.cons.inj hrest
      exact h es₁ id op rest rfl

/-- In a run from an empty registry to which callers bring only what they build or copy, nobody stores a snapshot that repeats a
reference. -/
theorem State.Run.unrepeated (h : State.Run s start es x) (hq : start.Quiet) (he : start.world.registry = .empty)
    (hm : State.Supplied s start es) : x.Kept unrepeated := by
  -- what is copied was there after fewer events, in a run that need not be this one up to then
  induction hn : es.length using Nat.strong_induction_on generalizing es x with
  | h n ih =>
    cases h with
    | refl =>
      refine hq.kept fun url service hs => ?_
      simp only [World.site, he] at hs
      cases hs
    | @step es y z e hy hs =>
      have hbefore : ∀ {es₀ y₀}, es₀ <+: es → State.Run s start es₀ y₀ → y₀.Kept unrepeated := by
        intro es₀ y₀ hp hy₀
        refine ih es₀.length ?_ hy₀ (hm.of_prefix (hp.trans (List.prefix_append _ _))) rfl
        have hle := hp.length_le
        rw [List.length_append, List.length_singleton] at hn
        omega
      have hknown : ∀ service, State.Saw s start es service → service.Unrepeated := by
        rintro service ⟨es₀, y₀, url, hp, hy₀, hget⟩
        exact (hbefore hp hy₀).sound_of_lossy trivial url service hget
      refine (hbefore List.prefix_rfl hy).step hs (Regime.allowsEvent_of_lossy trivial ?_)
      rintro id op rfl
      have hop : op.Makes (State.Saw s start es) := hm es id op [] rfl
      cases op with
      | register service | schedule service => exact Service.Made.unrepeated hop hknown
      | synchronize | unregister | discover | round => trivial

end

/-- The call that is made by choice. -/
def Choice.call? : Choice → Option Operation
  | .call op => some op
  | _ => none

/-- The event of a choice is the call that was chosen. -/
theorem State.call?_of_next? {s : Scheduler} {x y : State} {c : Choice} {e : Event} (h : x.next? s c = some (e, y)) :
    e.call? = c.call? := by
  cases c with
  | call op | pass time =>
    cases h
    rfl
  | begin i =>
    simp only [next?] at h
    split at h
    · cases h
      rfl
    · cases h
  | move i cue =>
    simp only [next?] at h
    split at h
    · obtain ⟨z, _, he⟩ := Option.map_eq_some_iff.1 h
      cases he
      rfl
    · cases h
  | finish | cut =>
    simp only [next?] at h
    split at h
    · split at h
      · cases h
        rfl
      · cases h
    · cases h

/-- The calls of a run that is played through are those that were chosen. -/
theorem State.calls_of_replay {s : Scheduler} {x y : State} {cs : List Choice} {es : List Event}
    (h : x.replay s cs = some (es, y)) : es.filterMap Event.call? = cs.filterMap Choice.call? := by
  induction cs generalizing x es with
  | nil =>
    cases h
    rfl
  | cons c cs ih =>
    obtain ⟨e, z, es', hn, hz, rfl⟩ := State.replay_cons h
    rw [List.filterMap_cons, List.filterMap_cons, State.call?_of_next? hn, ih hz]

end Engine

end CatalogSync
