import CatalogSync.Proofs.Engine.Aftermath
import CatalogSync.Proofs.Engine.Joins
import CatalogSync.Proofs.Engine.Succession
import CatalogSync.Proofs.Engine.Weave
import CatalogSync.Proofs.Resource.Kinds

/-!
# Where stored references come from

A tick stores nothing but what it kept of the graph that the client gave it, and it hands over nothing but the changes that lead from
the entry's snapshot to there; an unregistration removes the snapshot that it took out (`Program.Woven.sourcing`). So in every run the
snapshots in the registry are vouched for: each is of a graph that was served for its URL, or it came with the service that was
registered (`State.Run.vouching`). Whoever drops all roots but submodels thus stores and hands over references from trees below
submodels only (`State.Run.restricts`). That is about roots: what is below one may be of any kind in a graph that was read from JSON
(`State.Run.restricts_not_nested`).
-/

namespace CatalogSync.Engine

open Tick

/-! ## Where a graph comes from -/

/-- That a graph is what a tick keeps of one that the client gave it for a URL. -/
def Sourced (onlySubmodels : Bool) (ms : List Move) (url : AccessUrl) (graph : Graph) : Prop :=
  ∃ headers given, .answered (.fetch url headers) (.ok (.ok given)) ∈ ms ∧ graph = keptGraph onlySubmodels given

/-- That changes lead from the snapshot of an entry that a tick found to a graph that it kept. -/
def Derived (onlySubmodels : Bool) (ms : List Move) (url : AccessUrl) (c : ResourceChanges) : Prop :=
  ∃ service graph, .answered (.service url) (some service) ∈ ms ∧ Sourced onlySubmodels ms url graph ∧
    Graph.diff (service.snapshot.map Snapshot.graph) graph = .ok c

/-- What a task may ask for after what it did so far: to store a graph that it kept, and to apply changes that lead to one, or that remove
an entry which it took out. -/
def Sources (onlySubmodels : Bool) (ms : List Move) : Request → Prop
  | .swap url _ new => Sourced onlySubmodels ms url new.graph
  | .apply url c => Derived onlySubmodels ms url c ∨ ∃ service, .answered (.remove url) (some service) ∈ ms ∧ c = cleanupOf service
  | _ => True

/-- That a graph that becomes a snapshot stays what it is. -/
def Faithful : (r : Request) → r.Answer → Prop
  | .snapshot graph, snapshot => snapshot.graph = graph
  | _, _ => True

/-- Storing and handing over only what has a source. -/
abbrev sourcing (onlySubmodels : Bool) : Calculus (List Move) := asking (Sources onlySubmodels) Faithful

section

variable {onlySubmodels : Bool} {ms : List Move} {url : AccessUrl} {graph : Graph}

theorem Sourced.concat (h : Sourced onlySubmodels ms url graph) (m : Move) : Sourced onlySubmodels (ms ++ [m]) url graph := by
  obtain ⟨headers, given, hm, hg⟩ := h
  exact ⟨headers, given, List.mem_append_left _ hm, hg⟩

theorem Derived.concat {c : ResourceChanges} (h : Derived onlySubmodels ms url c) (m : Move) :
    Derived onlySubmodels (ms ++ [m]) url c := by
  obtain ⟨service, graph, hm, hs, hd⟩ := h
  exact ⟨service, graph, List.mem_append_left _ hm, hs.concat m, hd⟩

/-- What a tick works on between fetching and comparing has a source. -/
def FetchedFrom (onlySubmodels : Bool) (x : Option Fetched) (ms : List Move) : Prop :=
  ∀ f, x = some f → Sourced onlySubmodels ms f.service.url f.graph

/-- What a tick works on after comparing has a source, and so have its changes. -/
def DiffedFrom (onlySubmodels : Bool) (x : Option Diffed) (ms : List Move) : Prop :=
  ∀ d, x = some d → Sourced onlySubmodels ms d.url d.new.graph ∧ Derived onlySubmodels ms d.url d.changes

/-- Nothing fetched needs no source. -/
theorem fetchedFrom_none : FetchedFrom onlySubmodels none ms := nofun

/-- Nothing compared needs none either. -/
theorem diffedFrom_none : DiffedFrom onlySubmodels none ms := nofun

theorem FetchedFrom.concat {x : Option Fetched} (h : FetchedFrom onlySubmodels x ms) (m : Move) :
    FetchedFrom onlySubmodels x (ms ++ [m]) := fun f hf => (h f hf).concat m

theorem DiffedFrom.concat {x : Option Diffed} (h : DiffedFrom onlySubmodels x ms) (m : Move) :
    DiffedFrom onlySubmodels x (ms ++ [m]) := fun d hd => ⟨(h d hd).1.concat m, (h d hd).2.concat m⟩

namespace Tick

open Timed

/-! ## The steps of a tick -/

/-- Timed work that stores and hands over only what has a source. -/
abbrev Sourcing (onlySubmodels : Bool) {α : Type} (t : Timed α) (ms : List Move) (Q : α → List Move → Prop) : Prop :=
  t.Meets (sourcing onlySubmodels) ms Q fun _ _ => True

/-- A request for something that has a source is followed by what its answer promises. -/
theorem sourcing_request {r : Request} {Q : r.Answer → List Move → Prop} (hA : Sources onlySubmodels ms r)
    (hQ : ∀ a, Faithful r a → Q a (ms ++ [.answered r a])) : Sourcing onlySubmodels (Timed.request r) ms Q :=
  meets_request ⟨hA, hQ, trivial⟩

/-- Telling the sink about a failure takes no source away. -/
theorem silent_sourcing {P : List Move → Prop} (hP : ∀ ms m, P ms → P (ms ++ [m])) : (sourcing onlySubmodels).Silent P :=
  fun _ h _ _ => ⟨trivial, fun _ _ => hP _ _ h, trivial⟩

/-- A failed step leaves nothing that would need a source. -/
theorem staged_nothing {α : Type} {J : Option α → List Move → Prop} (hJ : ∀ ms, J none ms) (e : SyncError) (step : String)
    (recorded : List Failure) : Staged (fun x _ => J x) (fun _ _ => True) step recorded none (failed e) ms := by
  unfold failed Outcome.ofFailure
  split
  · trivial
  · exact hJ ms

/-- What fetching hands on is what the client gave it. -/
theorem sourcing_fetching (s : Service) (step : String) (recorded : List Failure) :
    Sourcing onlySubmodels (fetching.apply s) ms
      (Staged (fun x _ => FetchedFrom false x) (fun _ _ => True) step recorded none) := by
  have hheaders : Sourcing onlySubmodels (s.auth.headers fun name => Timed.request (.resolve name)) ms fun _ _ => True := by
    refine Timed.Meets.seq (Q := fun _ _ => True) ?_ fun _ _ _ => meets_pure trivial
    cases s.auth with
    | none | basic username password | apiKey name value => exact meets_pure trivial
    | vault name =>
      have hresolve : Sourcing onlySubmodels (Timed.request (.resolve name)) ms fun _ _ => True :=
        sourcing_request trivial fun _ _ => trivial
      refine hresolve.seq ?_
      rintro (_ | value) ms -
      · exact meets_pure trivial
      · exact meets_pure trivial
  refine hheaders.seq ?_
  rintro (e | headers) ms -
  · exact meets_pure (staged_nothing (fun _ => fetchedFrom_none) _ _ _)
  · have hfetch : Sourcing onlySubmodels (Timed.request (.fetch s.url headers)) ms fun a ms =>
        ∀ given, a = .ok (.ok given) → Sourced false ms s.url given := by
      refine sourcing_request trivial ?_
      rintro _ - given rfl
      exact ⟨headers, given, List.mem_append_right _ (List.mem_singleton_self _), rfl⟩
    refine hfetch.seq ?_
    rintro (reason | e | given) ms hgiven
    · exact meets_halt trivial
    · exact meets_pure (staged_nothing (fun _ => fetchedFrom_none) _ _ _)
    · refine meets_pure (Q := Staged _ _ _ _ _) fun f hf => ?_
      cases hf
      exact hgiven given rfl

/-- To restrict a graph to its submodels is to keep what a tick keeps. -/
theorem sourcing_restricting {x : Option Fetched} (h : FetchedFrom false x ms) (step : String) (recorded : List Failure) :
    Sourcing onlySubmodels ((restricting [.submodel]).apply x) ms
      (Staged (fun x _ => FetchedFrom true x) (fun _ _ => True) step recorded none) := by
  refine meets_pure (Q := Staged _ _ _ _ _) fun f hf => ?_
  obtain ⟨f', rfl, rfl⟩ := Option.map_eq_some_iff.1 hf
  obtain ⟨headers, given, hm, hg⟩ := h f' rfl
  refine ⟨headers, given, hm, ?_⟩
  show f'.graph.retainKinds [.submodel] = _
  rw [hg]
  rfl

/-- What diffing hands on is the graph it got, with the changes from the entry to it. -/
theorem sourcing_diffing {x : Option Fetched} (h : FetchedFrom onlySubmodels x ms) (step : String) (recorded : List Failure) :
    Sourcing onlySubmodels (diffing.apply x) ms
      (Staged (fun x _ => DiffedFrom onlySubmodels x) (fun _ _ => True) step recorded none) := by
  cases x with
  | none => exact meets_pure (Q := Staged _ _ _ _ _) diffedFrom_none
  | some f =>
    have hentry : Sourcing onlySubmodels (Timed.request (.service f.service.url)) ms fun a ms =>
        Sourced onlySubmodels ms f.service.url f.graph ∧ .answered (.service f.service.url) a ∈ ms :=
      sourcing_request trivial fun _ _ => ⟨(h f rfl).concat _, List.mem_append_right _ (List.mem_singleton_self _)⟩
    refine hentry.seq ?_
    rintro (_ | current) ms ⟨hs, hm⟩
    · exact meets_pure (staged_nothing (fun _ => diffedFrom_none) _ _ _)
    · dsimp only
      split
      · exact meets_pure (staged_nothing (fun _ => diffedFrom_none) _ _ _)
      · rename_i changes hd
        have hnew : (Program.request (.snapshot f.graph)).Meets (sourcing onlySubmodels) ms fun new ms =>
            DiffedFrom onlySubmodels (some ⟨f.service.url, current.snapshot, new, changes⟩) ms := by
          refine ⟨trivial, fun new hn d hd' => ?_, trivial⟩
          cases hd'
          have hgraph : new.graph = f.graph := hn
          show Sourced onlySubmodels _ f.service.url new.graph ∧ Derived onlySubmodels _ f.service.url changes
          rw [hgraph]
          exact ⟨hs.concat _, Derived.concat ⟨current, f.graph, hm, hs, hd⟩ _⟩
        exact (meets_lift hnew).seq fun _ _ hn => meets_pure (Q := Staged _ _ _ _ _) hn

/-- Updating stores a graph that was kept, and hands on the changes it got. -/
theorem sourcing_updating {x : Option Diffed} (h : DiffedFrom onlySubmodels x ms) (step : String) (recorded : List Failure) :
    Sourcing onlySubmodels (updating.apply x) ms
      (Staged (fun x _ => DiffedFrom onlySubmodels x) (fun _ _ => True) step recorded none) := by
  cases x with
  | none => exact meets_pure (Q := Staged _ _ _ _ _) diffedFrom_none
  | some d =>
    have hswap : Sourcing onlySubmodels (Timed.request (.swap d.url d.old d.new)) ms fun _ ms =>
        DiffedFrom onlySubmodels (some d) ms := sourcing_request (h d rfl).1 fun _ _ => h.concat _
    refine hswap.seq ?_
    rintro (e | old) ms hd
    · exact meets_pure (staged_nothing (fun _ => diffedFrom_none) _ _ _)
    · exact meets_pure (Q := Staged _ _ _ _ _) hd

/-- Emitting hands over changes that lead to a graph that was kept. -/
theorem sourcing_emitting {x : Option Diffed} (h : DiffedFrom onlySubmodels x ms) (step : String) (recorded : List Failure) :
    Sourcing onlySubmodels (emitting.apply x) ms
      (Staged (fun (_ : Option ResourceChanges) _ _ => True) (fun _ _ => True) step recorded none) := by
  cases x with
  | none => exact meets_pure (Q := Staged _ _ _ _ _) trivial
  | some d =>
    show Sourcing onlySubmodels (if d.changes.isEmpty then _ else _) _ _
    split
    · exact meets_pure (Q := Staged _ _ _ _ _) trivial
    · have happly : Sourcing onlySubmodels (Timed.request (.apply d.url d.changes)) ms fun _ _ => True :=
        sourcing_request (Or.inl (h d rfl).2) fun _ _ => trivial
      refine happly.seq ?_
      rintro (e | ⟨⟩) ms -
      · exact meets_pure (Q := Staged _ _ _ _ _) trivial
      · exact meets_pure (Q := Staged _ _ _ _ _) trivial

/-- The steps of a tick store what they fetched, and hand over the changes that lead there. -/
theorem sourcing_pipeline (onlySubmodels : Bool) (s : Service) :
    Sourcing onlySubmodels ((pipeline onlySubmodels).execute s) ms fun _ _ => True := by
  have hstop : ∀ fs : List Failure, (sourcing onlySubmodels).Silent fun _ => (fun _ : List Failure => True) fs :=
    fun _ => silent_sourcing fun _ _ h => h
  have hfetched : ∀ (b : Bool) x, (sourcing onlySubmodels).Silent (FetchedFrom b x) :=
    fun b x => silent_sourcing fun _ m h => h.concat m
  have hdiffed : ∀ x, (sourcing onlySubmodels).Silent (DiffedFrom onlySubmodels x) := fun x => silent_sourcing fun _ m h => h.concat m
  have hstart : (Chain.nil.run (sink pipelineName) s).Meets (sourcing onlySubmodels) ms
      (Ended (fun _ _ _ => True) fun _ _ => True) fun _ _ => True := meets_run_nil (I := fun _ _ _ => True) _ trivial
  have hfetch := meets_run_snoc (J := fun x _ => FetchedFrom false x) (fun x _ => hfetched false x) hstop hstart
    fun service recorded _ _ => sourcing_fetching service fetching.name recorded
  have hpre : ((fetchPipeline onlySubmodels).chain.run (sink pipelineName) s).Meets (sourcing onlySubmodels) ms
      (Ended (fun x _ => FetchedFrom onlySubmodels x) fun _ _ => True) fun _ _ => True := by
    cases onlySubmodels with
    | false => exact hfetch
    | true =>
      exact meets_run_snoc (J := fun x _ => FetchedFrom true x) (fun x _ => hfetched true x) hstop hfetch
        fun _ recorded _ hx => sourcing_restricting hx (restricting [.submodel]).name recorded
  have hdiff := meets_run_snoc (J := fun x _ => DiffedFrom onlySubmodels x) (fun x _ => hdiffed x) hstop hpre
    fun _ recorded _ hx => sourcing_diffing hx diffing.name recorded
  have hupdate := meets_run_snoc (J := fun x _ => DiffedFrom onlySubmodels x) (fun x _ => hdiffed x) hstop hdiff
    fun _ recorded _ hx => sourcing_updating hx updating.name recorded
  have hemit := meets_run_snoc (J := fun _ _ _ => True) (fun _ _ => hstop []) hstop hupdate
    fun _ recorded _ hx => sourcing_emitting hx emitting.name recorded
  have hsink : (pipeline onlySubmodels).sink (pipeline onlySubmodels).name = sink pipelineName := by
    cases onlySubmodels <;> rfl
  unfold Pipeline.execute
  rw [hsink]
  exact Timed.Meets.seq hemit fun _ _ _ => meets_pure trivial

end Tick

open Program

/-! ## Operations -/

/-- A tick stores and hands over only what came from its client. -/
theorem Synchronizer.sourcing_attempt (y : Synchronizer) (g : Guard) : (y.attempt g).Always (sourcing y.onlySubmodels) := by
  have hrequest : ∀ {r : Request}, (∀ ms, Sources y.onlySubmodels ms r) → (request r).Always (sourcing y.onlySubmodels) :=
    fun h ms => ⟨h ms, fun _ _ => trivial, trivial⟩
  refine (hrequest (r := .service g.url) fun _ => trivial).bind ?_
  rintro (_ | service)
  · exact fun _ => trivial
  · refine (hrequest (r := .now) fun _ => trivial).bind fun start => ?_
    intro ms
    refine (Tick.sourcing_pipeline y.onlySubmodels service (some (start + y.timeout))).seq ?_
    rintro ((_ | reason) | r) ms -
    · trivial
    · trivial
    · trivial

/-- Cleaning up hands over the removal of what it took out of the registry. -/
theorem sourcing_cleanUp (url : AccessUrl) : (cleanUp url).Always (sourcing onlySubmodels) := by
  intro ms
  have hremove : (request (.remove url)).Meets (sourcing onlySubmodels) ms fun a ms => .answered (.remove url) a ∈ ms :=
    ⟨trivial, fun _ _ => List.mem_append_right _ (List.mem_singleton_self _), trivial⟩
  refine hremove.seq ?_
  rintro (_ | service) ms hm
  · trivial
  · dsimp only
    split
    · trivial
    · refine ⟨Or.inr ⟨service, hm, rfl⟩, ?_, trivial⟩
      rintro (e | ⟨⟩) -
      · trivial
      · trivial

/-- Whatever is woven stores and hands over only what has a source. -/
theorem Program.Woven.sourcing {y : Synchronizer} {α : Type} {p : Program α} (h : p.Woven y) :
    p.Always (Engine.sourcing y.onlySubmodels) := by
  refine h.always ?_ ?_ y.sourcing_attempt sourcing_cleanUp
  · intro r hr ms
    refine ⟨?_, fun _ _ => trivial, trivial⟩
    cases r with
    | swap | apply => nomatch hr
    | _ => trivial
  · exact fun url ms _ _ _ => trivial

/-- What the world answers is faithful. -/
theorem Program.Step.faithful {α : Type} {w w' : World} {p p' : Program α} {m : Move} (h : Step w p m w' p') : m.Given Faithful := by
  cases m with
  | answered r a =>
    cases r with
    | snapshot graph =>
      cases h.answers with
      | world ha =>
        cases ha
        rfl
    | _ => trivial
  | expired | listened | took | yielded | woken => trivial

end

/-! ## What the registry holds -/

/-- That the client gave a graph when it was asked for that of a URL. -/
def Served (es : List Event) (url : AccessUrl) (graph : Graph) : Prop :=
  ∃ id headers, .moved id (.answered (.fetch url headers) (.ok (.ok graph))) ∈ es

/-- That a service was registered for a URL with a snapshot of a graph, as a copy of an entry is. -/
def Carried (es : List Event) (url : AccessUrl) (graph : Graph) : Prop :=
  ∃ id service snapshot, .moved id (.answered (.register service) true) ∈ es ∧ service.url = url ∧ service.snapshot = some snapshot ∧
    snapshot.graph = graph

/-- That a graph is what a tick keeps of one that was served for a URL. -/
def Retained (onlySubmodels : Bool) (es : List Event) (url : AccessUrl) (graph : Graph) : Prop :=
  ∃ given, Served es url given ∧ graph = keptGraph onlySubmodels given

/-- That the snapshot of a service, if it has one, is of a graph that was kept or carried. -/
def Vouched (onlySubmodels : Bool) (es : List Event) (url : AccessUrl) (service : Service) : Prop :=
  ∀ snapshot, service.snapshot = some snapshot → Retained onlySubmodels es url snapshot.graph ∨ Carried es url snapshot.graph

/-- What tasks are told: graphs that were served, and services whose snapshots are vouched for. -/
def Told (onlySubmodels : Bool) (es : List Event) : (r : Request) → r.Answer → Prop
  | .fetch url _, a => ∀ graph, a = .ok (.ok graph) → Served es url graph
  | .service url, a | .remove url, a => ∀ service, a = some service → Vouched onlySubmodels es url service
  | _, _ => True

/-- Every snapshot in the registry is vouched for, and so is whatever a task was told and does with it. -/
structure State.Vouching (onlySubmodels : Bool) (es : List Event) (x : State) : Prop where
  keyed : x.world.registry.Keyed
  entries : ∀ url service, x.world.registry.get? url = some service → Vouched onlySubmodels es url service
  told : ∀ t ∈ x.tasks ++ x.ended, ∀ m ∈ t.moves, m.Given (Told onlySubmodels es)
  programs : ∀ t ∈ x.tasks, t.program.Meets (sourcing onlySubmodels) t.moves fun _ _ => True

section

variable {onlySubmodels : Bool} {es : List Event} {x z : State} {e : Event} {url : AccessUrl} {t : Task}

/-- What a task kept of a graph that it was told of was served. -/
theorem State.Vouching.kept (h : x.Vouching onlySubmodels es) (ht : t ∈ x.tasks) {graph : Graph}
    (hg : Sourced onlySubmodels t.moves url graph) : Retained onlySubmodels es url graph := by
  obtain ⟨headers, given, hm, rfl⟩ := hg
  exact ⟨given, h.told t (List.mem_append_left _ ht) _ hm given rfl, rfl⟩

/-- What the world answers is vouched for if its registry is. -/
theorem Program.Step.told {α : Type} {w w' : World} {p p' : Program α} {m : Move} (h : Step w p m w' p') {id : Nat}
    (he : .moved id m ∈ es) (hw : ∀ url service, w.registry.get? url = some service → Vouched onlySubmodels es url service) :
    m.Given (Told onlySubmodels es) := by
  cases m with
  | answered r a =>
    cases r with
    | fetch url headers =>
      rintro graph rfl
      exact ⟨id, headers, he⟩
    | service url =>
      cases h.answers with
      | world ha =>
        cases ha
        exact hw url
    | remove url =>
      cases h.answers with
      | world ha =>
        rw [World.perform_remove] at ha
        cases ha
        exact hw url
    | _ => trivial
  | expired | listened | took | yielded | woken => trivial

/-- A move keeps the registry vouched for: what it stores was kept, and what it registers was carried. -/
theorem State.Vouching.entry (h : x.Vouching onlySubmodels es) (ht : t ∈ x.tasks) {w : World} {m : Move} {p : Program Report}
    (hp : Program.Step x.world t.program m w p) (he : .moved t.id m ∈ es) {service : Service}
    (hs : w.registry.get? url = some service) : Vouched onlySubmodels es url service := by
  have hamends := hp.amends h.keyed url
  have hold := h.entries url
  generalize x.world.registry.get? url = old at hamends hold
  rw [hs] at hamends
  cases hamends with
  | kept => exact hold service rfl
  | registered hu =>
    intro snapshot hsnapshot
    exact Or.inr ⟨t.id, service, snapshot, he, hu, hsnapshot, rfl⟩
  | @exchanged _ expected new =>
    rintro snapshot ⟨⟩
    have hsource := ((h.programs t ht).goes hp.goes hp.faithful).2 (.swap url expected new) rfl
    exact Or.inl (h.kept ht hsource)

/-- Every step of a run keeps all snapshots vouched for. -/
theorem State.Vouching.step {s : Scheduler} (h : x.Vouching s.synchronizer.onlySubmodels es) (hs : State.Step s x e z) (he : e ∈ es) :
    z.Vouching s.synchronizer.onlySubmodels es := by
  refine ⟨h.keyed.edit hs.edit, ?_, ?_, ?_⟩
  · cases hs with
    | @move w w' before after past t m p hp => exact fun url service => h.entry (List.mem_append_right _ List.mem_cons_self) hp he
    | @finish w before after past t report hr => cases report.tick? <;> exact h.entries
    | call | begin | cut | pass => exact h.entries
  · refine hs.forall_all h.told (fun _ _ _ => nofun) (fun _ _ => nofun) ?_ fun _ _ ht _ _ => ht
    rintro t _ ht m p rfl hp
    exact List.forall_mem_append.2 ⟨ht, List.forall_mem_singleton.2 (hp.told he h.entries)⟩
  · exact hs.meets Task.moves (fun p hp => hp.sourcing) (fun t m p hp ht => (ht.goes hp.goes hp.faithful).1) h.programs

/-! ## References and where they come from -/

/-- What the registry of a state holds, and what its tasks are about to store and to hand over: references of what is added are among some,
and those of what is removed, or was stored, are among others. -/
structure State.References (x : State) (A B : AccessUrl → Reference → Prop) : Prop where
  held : ∀ url service snapshot, x.world.registry.get? url = some service → service.snapshot = some snapshot →
    ∀ r ∈ snapshot.graph.references, B url r
  stored : ∀ t ∈ x.tasks, ∀ url expected new, t.program.Asks (.swap url expected new) → ∀ r ∈ new.graph.references, A url r
  added : ∀ t ∈ x.tasks, ∀ url c, t.program.Asks (.apply url c) → ∀ entry ∈ c.toAdd, A url entry.reference
  removed : ∀ t ∈ x.tasks, ∀ url c, t.program.Asks (.apply url c) → ∀ r ∈ c.toRemove, B url r

/-- The bounds on what is held and underway may be widened. -/
theorem State.References.mono {A A' B B' : AccessUrl → Reference → Prop} (h : x.References A B) (hA : ∀ url r, A url r → A' url r)
    (hB : ∀ url r, B url r → B' url r) : x.References A' B' where
  held url service snapshot hs hn r hr := hB url r (h.held url service snapshot hs hn r hr)
  stored t ht url expected new ha r hr := hA url r (h.stored t ht url expected new ha r hr)
  added t ht url c ha entry he := hA url _ (h.added t ht url c ha entry he)
  removed t ht url c ha r hr := hB url r (h.removed t ht url c ha r hr)

/-- That a reference is one of a graph that was kept. -/
def Brings (onlySubmodels : Bool) (es : List Event) (url : AccessUrl) (r : Reference) : Prop :=
  ∃ graph, Retained onlySubmodels es url graph ∧ r ∈ graph.references

/-- That a reference is one of a graph that a service was registered with. -/
def Carries (es : List Event) (url : AccessUrl) (r : Reference) : Prop := ∃ graph, Carried es url graph ∧ r ∈ graph.references

/-- What a snapshot refers to was kept by a tick or carried in by a registration. -/
theorem Vouched.references {service : Service} (h : Vouched onlySubmodels es url service) {snapshot : Snapshot}
    (hn : service.snapshot = some snapshot) {r : Reference} (hr : r ∈ snapshot.graph.references) :
    Brings onlySubmodels es url r ∨ Carries es url r := by
  rcases h snapshot hn with hg | hg
  · exact Or.inl ⟨_, hg, hr⟩
  · exact Or.inr ⟨_, hg, hr⟩

/-- The changes that a task may hand over add what it kept and remove what it found. -/
theorem State.Vouching.changes (h : x.Vouching onlySubmodels es) (ht : t ∈ x.tasks) {c : ResourceChanges}
    (ha : t.program.Asks (.apply url c)) :
    (∀ entry ∈ c.toAdd, Brings onlySubmodels es url entry.reference) ∧
    ∀ r ∈ c.toRemove, Brings onlySubmodels es url r ∨ Carries es url r := by
  have htold : ∀ m ∈ t.moves, m.Given (Told onlySubmodels es) := h.told t (List.mem_append_left _ ht)
  rcases (h.programs t ht).asks ha with ⟨service, graph, hm, hg, hd⟩ | ⟨service, hm, rfl⟩
  · have hkept := h.kept ht hg
    obtain ⟨hadd, hremove⟩ := Graph.references_of_diff hd
    refine ⟨fun entry he => ⟨graph, hkept, hadd entry he⟩, fun r hr => ?_⟩
    obtain ⟨old, ho, hr⟩ := hremove r hr
    obtain ⟨snapshot, hn, rfl⟩ := Option.map_eq_some_iff.1 ho
    exact (htold _ hm service rfl).references hn hr
  · refine ⟨?_, fun r hr => ?_⟩
    · rw [toAdd_cleanupOf]
      exact nofun
    · unfold cleanupOf at hr
      cases hn : service.snapshot with
      | none =>
        rw [hn] at hr
        nomatch hr
      | some snapshot =>
        rw [hn] at hr
        refine (htold _ hm service rfl).references hn ?_
        simpa [Graph.removal, ChangeSet.empty, ChangeSet.removeAll] using hr

/-- Where every snapshot is vouched for, all references come from graphs that were kept or carried. -/
theorem State.Vouching.references (h : x.Vouching onlySubmodels es) :
    x.References (Brings onlySubmodels es) fun url r => Brings onlySubmodels es url r ∨ Carries es url r where
  held url service _ hs hn _ hr := (h.entries url service hs).references hn hr
  stored _ ht _ _ new ha _ hr := ⟨new.graph, h.kept ht ((h.programs _ ht).asks ha), hr⟩
  added _ ht _ _ ha := (h.changes ht ha).1
  removed _ ht _ _ ha := (h.changes ht ha).2

end

/-! ## Runs -/

/-- That a reference is in the tree below a submodel which is a root of a graph that was served. -/
def Offered (es : List Event) (url : AccessUrl) (r : Reference) : Prop :=
  ∃ graph, Served es url graph ∧ ∃ root ∈ graph.roots, root.reference.kind = .submodel ∧ ∃ x ∈ root.preorder, x.reference = r

/-- Who drops all roots but submodels brings what is offered below submodels. -/
theorem Brings.offered {es : List Event} {url : AccessUrl} {r : Reference} (h : Brings true es url r) : Offered es url r := by
  obtain ⟨_, ⟨given, hserved, rfl⟩, hr⟩ := h
  obtain ⟨root, hroot, hkind, hx⟩ := Graph.mem_references_retainKinds.1 hr
  exact ⟨given, hserved, root, hroot, List.mem_singleton.1 hkind, hx⟩

/-- In a run from the empty state, every snapshot is vouched for. -/
theorem State.Run.vouching {s : Scheduler} {permits : Permits} {es : List Event} {x : State}
    (h : State.Run s ⟨World.initial permits, [], []⟩ es x) : x.Vouching s.synchronizer.onlySubmodels es := by
  refine h.invariant ⟨Registry.keyed_empty, nofun, nofun, nofun⟩ ?_
  exact fun e he _ _ hx hs => hx.step hs he

/-- Whoever drops all roots but submodels stores snapshots with no other roots. All that is stored and handed over comes from the trees
below submodels that were served as roots, or, as far as it was in the registry already, from a snapshot that a service was registered
with. So all of it is about submodels where these trees, and such snapshots, are. -/
theorem State.Run.restricts {s : Scheduler} {permits : Permits} {es : List Event} {x : State}
    (h : State.Run s ⟨World.initial permits, [], []⟩ es x) (hs : s.synchronizer.onlySubmodels = true) :
    (∀ url service snapshot, x.world.registry.get? url = some service → service.snapshot = some snapshot →
      Carried es url snapshot.graph ∨ ∀ root ∈ snapshot.graph.roots, root.reference.kind = .submodel) ∧
    x.References (Offered es) (fun url r => Offered es url r ∨ Carries es url r) ∧
    ((∀ url graph, Served es url graph → ∀ root ∈ graph.roots, root.OneKind) → (∀ url r, Carries es url r → r.kind = .submodel) →
      x.References (fun _ r => r.kind = .submodel) fun _ r => r.kind = .submodel) := by
  have hvouching := hs ▸ h.vouching
  have hreferences : x.References (Offered es) fun url r => Offered es url r ∨ Carries es url r :=
    hvouching.references.mono (fun _ _ hr => hr.offered) fun _ _ hr => hr.imp_left Brings.offered
  refine ⟨fun url service snapshot hentry hn => ?_, hreferences, fun hkind hcarried => ?_⟩
  · rcases hvouching.entries url service hentry snapshot hn with ⟨given, _, hg⟩ | hc
    · refine Or.inr fun root hroot => ?_
      rw [hg] at hroot
      exact List.mem_singleton.1 (List.contains_iff_mem.1 (List.mem_filter.1 hroot).2)
    · exact Or.inl hc
  · have hoffered : ∀ url r, Offered es url r → r.kind = .submodel := by
      rintro url r ⟨graph, hserved, root, hroot, hsubmodel, y, hy, rfl⟩
      exact (hkind url graph hserved root hroot y hy).trans hsubmodel
    exact hreferences.mono hoffered fun url r hr => hr.elim (hoffered url r) (hcarried url r)

/-- Of a shell and a submodel with an element, a tick stores the submodel and the element, and hands them over next. -/
theorem State.Run.restricts_pending_tick :
    let url : AccessUrl := ⟨"http://host"⟩
    let s : Scheduler := ⟨⟨true, 50⟩, false, [], 1000⟩
    let submodel : Resource := (Resource.root .submodel "sm" .null).withChild "speed" .null
    let c : ResourceChanges := ⟨[⟨.root .submodel "sm", .null⟩, ⟨(Reference.root .submodel "sm").child "speed", .null⟩], []⟩
    ∃ es x z, State.Run s ⟨World.initial (.ofNat 1), [], []⟩ es x ∧ s.synchronizer.onlySubmodels = true ∧
      Served es url ⟨[.root .shell "aas" .null, submodel]⟩ ∧ (x.sight url).stored = some (c.toAdd.map Entry.reference) ∧
      State.Run s x [.moved 1 (.answered (.apply url c) (.ok ()))] z ∧
      x.References (fun _ r => r.kind = .submodel) fun _ r => r.kind = .submodel := by
  intro url s submodel c
  let graph : Graph := ⟨[.root .shell "aas" .null, submodel]⟩
  let kept : Graph := ⟨[submodel]⟩
  let es : List Event := [.called 0 (.register (.fresh url)), .moved 0 (.answered (.register (.fresh url)) true),
    .ended 0 (.registered true), .called 1 (.synchronize url), .moved 1 (.answered (.tryMark url) (some ⟨0, url⟩)),
    .moved 1 (.answered (.service url) (some (.fresh url))), .moved 1 (.answered .now 0),
    .moved 1 (.answered (.fetch url []) (.ok (.ok graph))), .moved 1 (.answered (.service url) (some (.fresh url))),
    .moved 1 (.answered (.snapshot kept) ⟨0, kept⟩), .moved 1 (.answered (.swap url none ⟨0, kept⟩) (.ok none))]
  let go (n : Nat) : List Choice := List.replicate n (.move 0 .go)
  have hplayed : ((State.replay s ⟨World.initial (.ofNat 1), [], []⟩ ([.call (.register (.fresh url)), .move 0 .go, .finish 0,
      .call (.synchronize url)] ++ go 3 ++ .move 0 (.fetched (.ok (.ok graph))) :: go 3)).bind fun r =>
      (r.2.replay s (go 1)).map fun r' => (r.1, r'.1, (r.2.sight url).stored)) =
      some (es, [.moved 1 (.answered (.apply url c) (.ok ()))], some (c.toAdd.map Entry.reference)) := by
    cbv
  obtain ⟨⟨es', x⟩, hfirst, h⟩ := Option.bind_eq_some_iff.1 hplayed
  obtain ⟨⟨es'', z⟩, hsecond, h⟩ := Option.map_eq_some_iff.1 h
  obtain ⟨rfl, rfl, hstored⟩ : es' = es ∧ _ ∧ _ := by simpa only [Prod.mk.injEq] using h
  have hrun : State.Run s ⟨World.initial (.ofNat 1), [], []⟩ es x := State.run_of_replay hfirst
  have hserved : ∀ url' graph', Served es url' graph' → graph' = graph := by
    rintro url' graph' ⟨id, headers, hm⟩
    have hgraph : Event.moved id (.answered (.fetch url' headers) (.ok (.ok graph'))) =
        .moved 1 (.answered (.fetch url []) (.ok (.ok graph))) := by
      simpa [es] using hm
    cases hgraph
    rfl
  have hkind : ∀ root ∈ graph.roots, root.OneKind := by
    have hshell : (Resource.root .shell "aas" .null).OneKind := (Resource.Grown.root _ _ _).kind_eq
    have hsubmodel : submodel.OneKind := ((Resource.Grown.root _ _ _).withChild _ _).kind_eq
    exact List.forall_mem_cons.2 ⟨hshell, List.forall_mem_singleton.2 hsubmodel⟩
  have hcarried : ∀ url' r, ¬Carries es url' r := by
    rintro url' r ⟨_, ⟨id, service, snapshot, hm, _, hn, _⟩, _⟩
    have hservice : id = 0 ∧ service = .fresh url := by simpa [es] using hm
    rw [hservice.2] at hn
    cases hn
  exact ⟨es, x, z, hrun, rfl, ⟨1, [], by simp [es, graph]⟩, hstored, State.run_of_replay hsecond,
    (hrun.restricts rfl).2.2 (fun _ graph' hg => hserved _ graph' hg ▸ hkind) fun url' r hr => absurd hr (hcarried url' r)⟩

/-- A submodel with a shell below it, which no tree that is grown from a submodel has: both are stored and handed over. -/
theorem State.Run.restricts_not_nested :
    let url : AccessUrl := ⟨"http://host"⟩
    let s : Scheduler := ⟨⟨true, 50⟩, false, [], 1000⟩
    let submodel : Reference := .root .submodel "sm"
    let shell : Reference := .root .shell "aas"
    ∃ es x, State.Run s ⟨World.initial (.ofNat 1), [], []⟩ es x ∧ shell.kind ≠ .submodel ∧
      x.sight url = ⟨[.success (some ⟨[submodel, shell], []⟩)], [shell, submodel], true, none, some [submodel, shell], some 0⟩ := by
  intro url s submodel shell
  let graph : Graph := ⟨[.node submodel .null [.node shell .null []]]⟩
  let go (n : Nat) : List Choice := List.replicate n (.move 0 .go)
  have hplayed : (State.replay s ⟨World.initial (.ofNat 1), [], []⟩ ([.call (.register (.fresh url)), .move 0 .go, .finish 0,
      .call (.synchronize url)] ++ go 3 ++ .move 0 (.fetched (.ok (.ok graph))) :: go 6 ++ [.finish 0])).map
      (fun r => r.2.sight url) =
      some ⟨[.success (some ⟨[submodel, shell], []⟩)], [shell, submodel], true, none, some [submodel, shell], some 0⟩ := by
    decide +kernel +zetaReduce
  obtain ⟨es, x, hrun, hsight⟩ := State.exists_run (fun _ x => x.sight url) hplayed
  exact ⟨es, x, hrun, by decide, hsight⟩

end CatalogSync.Engine
