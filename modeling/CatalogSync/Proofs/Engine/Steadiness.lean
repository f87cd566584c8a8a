import CatalogSync.Proofs.Engine.Abandonment
import CatalogSync.Proofs.Engine.Supply

/-!
# Failure is not sticky

Where no stored snapshot repeats a reference, a tick is never at odds with the snapshot that it finds, and nobody is at odds with the
tick, who holds the guard: what it is fatally over is the graph that it fetched itself (`Tick.Steady`). Whatever failed before, it comes
to success if the client gives it a graph without repeated references and the catalog takes the changes in time
(`State.Run.recovers`).
-/

namespace CatalogSync

namespace Engine

/-- The failure that an error in a phase of a tick is recorded as. -/
def Phase.failure (p : Phase) (e : SyncError) : Failure := e.toFailure.attributedTo p.name

namespace Tick

/-! ## When a result is steady -/

/-- What a tick of an unrivalled service comes to, given its moves: no error of the registry once the tick has found its service, and
nothing fatal but a reference that the graph which it fetched repeats. -/
structure Steady (onlySubmodels : Bool) (moves : List Move) (result : Except String TickResult) : Prop where
  conflict : ∀ r, result = .ok r → ∀ (p : Phase) url, p.failure (.registry (.snapshotConflict url)) ∉ r.failures
  registered : ∀ r, result = .ok r → ∀ url, Phase.diffing.failure (.registry (.notRegistered url)) ∉ r.failures ∧
    Phase.updating.failure (.registry (.notRegistered url)) ∉ r.failures
  fatal : ∀ r, result = .ok r → r.isFatal = true → ∃ url headers graph reference,
    .answered (.fetch url headers) (.ok (.ok graph)) ∈ moves ∧ ¬graph.references.Nodup ∧
    (keptGraph onlySubmodels graph).repeated? = some reference ∧
    r = .fatal [Phase.diffing.failure (.model (.duplicateReference reference))]
  /-- It comes to nothing only where the client crashed. -/
  crashed : ∀ reason, result = .error reason → ∃ url headers, .answered (.fetch url headers) (.error reason) ∈ moves

/-- That the client gave a tick a graph without repeated references, the catalog did not refuse changes, and nothing took too long. -/
structure Unhindered (url : AccessUrl) (moves : List Move) : Prop where
  fetched : ∃ headers graph, .answered (.fetch url headers) (.ok (.ok graph)) ∈ moves ∧ graph.references.Nodup
  applied : ∀ changes e, .answered (.apply url changes) (.error e) ∉ moves
  timely : ∀ r, .expired r ∉ moves

/-- Why a tick ended early, as its moves tell. -/
def Explained : Halt → List Move → Prop
  | .expired, ms => ∃ r, .expired r ∈ ms
  | .crashed reason, ms => (∃ url headers, .answered (.fetch url headers) (.error reason) ∈ ms) ∧
      ∀ url headers a, .answered (.fetch url headers) (.ok a) ∉ ms

/-! ## Conditions that last -/

/-- That the client was not called. -/
def Fetchless (ms : List Move) : Prop := ∀ url headers a, .answered (.fetch url headers) a ∉ ms

/-- Asking for anything, with any answers. -/
abbrev anything : Calculus (List Move) := asking (fun _ _ => True) fun _ _ => True

/-- That a condition on moves lasts as long as the client is not called, and tells of work that is given up on for its time. -/
structure Lasting (I : List Move → Prop) (E : Halt → List Move → Prop) : Prop where
  asked : ∀ {ms}, I ms → ∀ {r : Request} (a : r.Answer), (∀ url headers, r ≠ .fetch url headers) → I (ms ++ [.answered r a])
  expired : ∀ {ms}, I ms → ∀ r, E .expired (ms ++ [.expired r])

/-- That one condition lasts until a tick calls the client, and another one from then on unless the client crashes. -/
structure Turning (I J : List Move → Prop) (E : Halt → List Move → Prop) : Prop where
  before : Lasting I E
  after : Lasting J E
  uncalled : ∀ {ms}, I ms → J ms
  fetched : ∀ {ms}, I ms → ∀ url headers a, J (ms ++ [.answered (.fetch url headers) (.ok a)])
  crashed : ∀ {ms}, I ms → ∀ url headers reason, E (.crashed reason) (ms ++ [.answered (.fetch url headers) (.error reason)])

section

open Timed

variable {ms : List Move} {I J : List Move → Prop} {E : Halt → List Move → Prop}

/-- As long as a move is no call of the client, the client was not called. -/
theorem Fetchless.concat (h : Fetchless ms) {r : Request} {a : r.Answer} (hr : ∀ url headers, r ≠ .fetch url headers) :
    Fetchless (ms ++ [.answered r a]) := by
  intro url headers a' hm
  rcases List.mem_append.1 hm with hm | hm
  · exact h url headers a' hm
  · cases List.mem_singleton.1 hm
    exact hr url headers rfl

/-- A request for anything but the client's graph keeps a lasting condition. -/
theorem Lasting.request (h : Lasting I E) (hi : I ms) {r : Request} (hr : ∀ url headers, r ≠ .fetch url headers) :
    Timed.Meets anything (Timed.request r) ms (fun _ => I) E :=
  meets_request ⟨trivial, fun a _ => h.asked hi a hr, h.expired hi r⟩

/-- So does building the headers. -/
theorem Lasting.headers (h : Lasting I E) (hi : I ms) (auth : AuthMethod) :
    Timed.Meets anything (auth.headers fun name => Timed.request (.resolve name)) ms (fun _ => I) E := by
  refine Timed.Meets.seq (Q := fun _ => I) ?_ fun _ _ hi => meets_pure hi
  cases auth with
  | none | basic username password | apiKey name value => exact meets_pure hi
  | vault name =>
    refine (h.request (r := .resolve name) hi nofun).seq ?_
    rintro (_ | value) ms hi
    · exact meets_pure hi
    · exact meets_pure hi

/-- Fetching turns one condition into the other. -/
theorem Turning.fetching (h : Turning I J E) (hi : I ms) (s : Service) :
    Timed.Meets anything (fetching.apply s) ms (fun _ => J) E := by
  refine (h.before.headers hi s.auth).seq ?_
  rintro (e | headers) ms hi
  · exact meets_pure (h.uncalled hi)
  · have hfetch : Timed.Meets anything (Timed.request (.fetch s.url headers)) ms
        (fun a ms' => ms' = ms ++ [.answered (.fetch s.url headers) a]) E :=
      meets_request ⟨trivial, fun a _ => rfl, h.before.expired hi _⟩
    refine hfetch.seq ?_
    rintro (reason | e | graph) _ rfl
    · exact meets_halt (h.crashed hi _ _ _)
    · exact meets_pure (h.fetched hi _ _ _)
    · exact meets_pure (h.fetched hi _ _ _)

/-- Diffing keeps a lasting condition. -/
theorem Lasting.diffing (h : Lasting I E) (hi : I ms) (x : Option Fetched) :
    Timed.Meets anything (diffing.apply x) ms (fun _ => I) E := by
  cases x with
  | none => exact meets_pure hi
  | some f =>
    refine (h.request (r := .service f.service.url) hi nofun).seq ?_
    rintro (_ | current) ms hi
    · exact meets_pure hi
    · dsimp only
      split
      · exact meets_pure hi
      · have hnew : (Program.request (.snapshot f.graph)).Meets anything ms fun _ => I :=
          ⟨trivial, fun a _ => h.asked (r := .snapshot f.graph) hi a nofun, trivial⟩
        exact (meets_lift hnew).seq fun _ _ hi => meets_pure hi

/-- So does updating. -/
theorem Lasting.updating (h : Lasting I E) (hi : I ms) (x : Option Diffed) :
    Timed.Meets anything (updating.apply x) ms (fun _ => I) E := by
  cases x with
  | none => exact meets_pure hi
  | some d =>
    refine (h.request (r := .swap d.url d.old d.new) hi nofun).seq ?_
    rintro (e | old) ms hi
    · exact meets_pure hi
    · exact meets_pure hi

/-- So does emitting. -/
theorem Lasting.emitting (h : Lasting I E) (hi : I ms) (x : Option Diffed) :
    Timed.Meets anything (emitting.apply x) ms (fun _ => I) E := by
  cases x with
  | none => exact meets_pure hi
  | some d =>
    show Timed.Meets _ (if d.changes.isEmpty then _ else _) _ _ _
    split
    · exact meets_pure hi
    · refine (h.request (r := .apply d.url d.changes) hi nofun).seq ?_
      rintro (e | ⟨⟩) ms hi
      · exact meets_pure hi
      · exact meets_pure hi

/-- A condition that lasts is one that the sink may be told of failures under. -/
theorem Lasting.silent (h : Lasting I E) : anything.Silent I :=
  fun _ hi pipeline f => ⟨trivial, fun a _ => h.asked (r := .report pipeline f) hi a nofun, trivial⟩

/-- A chain with one more step leads to what the step leads to. -/
theorem Lasting.run_snoc {α β γ : Type} {K : β → List Move → Prop} {head : Chain Timed α β} {step : Step Timed β (Option γ)} {a : α}
    (h : Lasting I E) (hh : (head.run (sink pipelineName) a).Meets anything ms (Ended (fun b _ => K b) fun _ => I) E)
    (hs : ∀ b ms, K b ms → (step.apply b).Meets anything ms (fun _ => I) E) :
    ((head.snoc step (pure none)).run (sink pipelineName) a).Meets anything ms (Ended (fun _ _ => I) fun _ => I) E := by
  refine meets_run_snoc (fun _ _ => h.silent) (fun _ => h.silent) hh fun b recorded ms hb => (hs b ms hb).mono ?_
  rintro (c | ⟨_ | c, failures⟩ | failures) ms hi
  · exact hi
  · exact hi
  · exact hi
  · exact hi

/-- The steps of a tick keep what lasts, or end early, and come to nothing that an abandoned tick comes to. -/
theorem Turning.pipeline (h : Turning I J E) (hi : I ms) (onlySubmodels : Bool) (s : Service) :
    Timed.Meets anything ((pipeline onlySubmodels).execute s) ms (fun r ms => J ms ∧ ∀ timeout, r ≠ abandoned timeout) E := by
  have hstart : Timed.Meets anything (Chain.nil.run (sink pipelineName) s) ms (Ended (fun _ _ => I) fun _ => J) E :=
    meets_run_nil (I := fun _ _ => I) _ hi
  have hfetch := h.after.run_snoc hstart fun s ms hi => h.fetching hi s
  have hpre : Timed.Meets anything ((fetchPipeline onlySubmodels).chain.run (sink pipelineName) s) ms
      (Ended (fun _ _ => J) fun _ => J) E := by
    cases onlySubmodels with
    | false => exact hfetch
    | true => exact h.after.run_snoc (K := fun _ => J) hfetch fun x ms hi => meets_pure hi
  have hdiff := h.after.run_snoc (K := fun _ => J) hpre fun x ms hi => h.after.diffing hi x
  have hupdate := h.after.run_snoc (K := fun _ => J) hdiff fun x ms hi => h.after.updating hi x
  have hemit := h.after.run_snoc (K := fun _ => J) hupdate fun x ms hi => h.after.emitting hi x
  have hsink : (Tick.pipeline onlySubmodels).sink (Tick.pipeline onlySubmodels).name = sink pipelineName := by
    cases onlySubmodels <;> rfl
  unfold Pipeline.execute
  rw [hsink]
  refine Timed.Meets.seq hemit ?_
  have hend : ∀ (x : Option (Option ResourceChanges) × List Failure) timeout, Chain.outcome x ≠ abandoned timeout := by
    rintro ⟨_ | c, _ | ⟨f, recorded⟩⟩ timeout <;> exact nofun
  rintro ⟨_ | c, recorded⟩ ms hi
  · exact meets_pure (Q := fun r ms => J ms ∧ ∀ timeout, r ≠ abandoned timeout) ⟨hi, hend _⟩
  · exact meets_pure (Q := fun r ms => J ms ∧ ∀ timeout, r ≠ abandoned timeout) ⟨hi, hend _⟩

/-- Why a tick ended early is told by its moves. -/
theorem turning_explained : Turning Fetchless (fun _ => True) Explained where
  before := ⟨fun h _ _ hr => h.concat hr, fun _ r => ⟨r, List.mem_append_right _ (List.mem_singleton_self _)⟩⟩
  after := ⟨fun _ _ _ _ => trivial, fun _ r => ⟨r, List.mem_append_right _ (List.mem_singleton_self _)⟩⟩
  uncalled _ := trivial
  fetched _ _ _ _ := trivial
  crashed h url headers reason := by
    refine ⟨⟨_, _, List.mem_append_right _ (List.mem_singleton_self _)⟩, fun url headers' a hm => ?_⟩
    rcases List.mem_append.1 hm with hm | hm
    · exact h _ _ _ hm
    · nomatch List.mem_singleton.1 hm

end

/-! ## Results and their failures -/

/-- A text begins as the first part of it does. -/
theorem head?_append {a b : String} {c : Char} (h : a.toList.head? = some c) : (a ++ b).toList.head? = some c := by
  rw [String.toList_append, List.head?_append, h]
  rfl

/-- A repeated reference is not told in the words of a conflict. -/
theorem message_duplicateReference_ne (r : Reference) (url : AccessUrl) :
    (SyncError.model (.duplicateReference r)).message ≠ (SyncError.registry (.snapshotConflict url)).message := by
  intro h
  have hmodel : (SyncError.model (.duplicateReference r)).message.toList.head? = some 'I' :=
    head?_append (head?_append (by decide +kernel))
  have hconflict : (SyncError.registry (.snapshotConflict url)).message.toList.head? = some 'R' := head?_append (by decide +kernel)
  rw [h, hconflict] at hmodel
  nomatch hmodel

/-- To find nothing registered is not to be abandoned. -/
theorem notRegistered_ne_abandoned (url : AccessUrl) (timeout : Nat) : notRegistered url ≠ abandoned timeout := by
  intro h
  have hmessage : (SyncError.registry (.notRegistered url)).message = "tick abandoned after " ++ toString timeout ++ "ms" :=
    congrArg Failure.message (List.singleton_inj.1 (congrArg Outcome.failures h))
  have hregistry : (SyncError.registry (.notRegistered url)).message.toList.head? = some 'R' := head?_append (by decide +kernel)
  rw [hmessage, head?_append (head?_append (c := 't') (by decide +kernel))] at hregistry
  nomatch hregistry

variable {onlySubmodels : Bool} {service entry : Service} {moves : List Move} {y : Synchronizer}

/-- A tick is steady that fails with warnings only, and not while it compares or stores. -/
theorem steady_of_warnings {r : TickResult} (hr : r.isFatal = false) (h : ∀ f ∈ r.failures,
    f.severity = .warning ∧ f.step ≠ some Phase.diffing.name ∧ f.step ≠ some Phase.updating.name) :
    Steady onlySubmodels moves (.ok r) := by
  refine ⟨?_, ?_, ?_, nofun⟩
  · intro _ he p url hf
    obtain rfl := Except.ok.inj he
    nomatch (h _ hf).1
  · intro _ he url
    obtain rfl := Except.ok.inj he
    exact ⟨fun hf => (h _ hf).2.1 rfl, fun hf => (h _ hf).2.2 rfl⟩
  · intro _ he hfatal
    obtain rfl := Except.ok.inj he
    rw [hr] at hfatal
    nomatch hfatal

/-- So is one that fails with one such warning. -/
theorem steady_of_warning {content : Option (Option ResourceChanges)} {step : Option String} {message : String}
    (hd : step ≠ some Phase.diffing.name) (hu : step ≠ some Phase.updating.name) :
    Steady onlySubmodels moves (.ok (.recoverable content [⟨.warning, step, message⟩])) :=
  steady_of_warnings rfl fun _ h => List.mem_singleton.1 h ▸ ⟨rfl, hd, hu⟩

/-- So is one that succeeds. -/
theorem steady_of_success (c : Option ResourceChanges) : Steady onlySubmodels moves (.ok (.success c)) :=
  steady_of_warnings rfl fun _ h => nomatch h

/-! ## What an account says of a result -/

/-- A lookup of a secret is no call of the client. -/
theorem fetchless_lookups (auth : AuthMethod) (secret : Option String) : Fetchless (lookups auth secret) := by
  intro url headers a h
  cases auth with
  | vault name => nomatch List.mem_singleton.1 h
  | none | basic | apiKey => nomatch h

/-- The client was called once, and gave the graph. -/
theorem Fetching.eq_of_mem {graph : Graph} {calls : List Move} (h : Fetching service graph calls) {url : AccessUrl}
    {headers : Headers} {a : Except String (Except FetchError Graph)} (hm : .answered (.fetch url headers) a ∈ calls) :
    a = .ok (.ok graph) := by
  cases h with
  | fetched h =>
    rcases List.mem_append.1 hm with hm | hm
    · exact absurd hm (fetchless_lookups _ _ url headers a)
    · cases List.mem_singleton.1 hm
      rfl

/-- A graph that was fetched is one that the client has answered with. -/
theorem Fetching.mem {graph : Graph} {calls : List Move} (h : Fetching service graph calls) :
    ∃ url headers, .answered (.fetch url headers) (.ok (.ok graph)) ∈ calls := by
  cases h with
  | fetched h => exact ⟨_, _, List.mem_append_right _ (List.mem_singleton_self _)⟩

/-- Where nothing was fetched, the client gave no graph. -/
theorem Unfetched.not_mem {calls : List Move} {fs : List Failure} (h : Unfetched service calls fs) (url : AccessUrl)
    (headers : Headers) (graph : Graph) : .answered (.fetch url headers) (.ok (.ok graph)) ∉ calls := by
  intro hm
  cases h with
  | unresolved h => exact fetchless_lookups _ _ _ _ _ hm
  | refused h e =>
    rcases List.mem_append.1 hm with hm | hm
    · exact fetchless_lookups _ _ _ _ _ hm
    · nomatch List.mem_singleton.1 hm

/-- The graph that a tick works on repeats no reference that the one which was fetched does not repeat. -/
theorem nodup_keptGraph {graph : Graph} (h : graph.references.Nodup) (onlySubmodels : Bool) :
    (keptGraph onlySubmodels graph).references.Nodup := by
  unfold keptGraph
  split
  · exact Graph.nodup_references_retainKinds h _
  · exact h

/-- What keeps the graph from being compared with a snapshot that repeats no reference is the first one that the graph repeats. -/
theorem repeated_of_diff {graph : Graph} {reference : Reference} (hu : service.Unrepeated)
    (hd : Graph.diff (service.snapshot.map Snapshot.graph) (keptGraph onlySubmodels graph) = .error (.duplicateReference reference)) :
    (keptGraph onlySubmodels graph).repeated? = some reference ∧ ¬graph.references.Nodup := by
  have hrepeated : (keptGraph onlySubmodels graph).repeated? = some reference := by
    refine Graph.repeated?_of_diff_eq_error hd fun g hg => ?_
    obtain ⟨snapshot, hs, rfl⟩ := Option.map_eq_some_iff.1 hg
    exact hu snapshot hs
  refine ⟨hrepeated, fun hn => ?_⟩
  have hnone := (Graph.repeated?_eq_none_iff _).2 (nodup_keptGraph hn onlySubmodels)
  rw [hrepeated] at hnone
  nomatch hnone

/-- A tick of a service whose snapshot repeats no reference is steady. -/
theorem Account.steady {calls : List Move} {r : Except Halt TickResult} (h : Account onlySubmodels service calls entry r)
    (hu : service.Unrepeated) (hcalls : calls ⊆ moves) (he : ∀ e, r = .error e → Explained e moves) :
    Steady onlySubmodels moves (y.told r) := by
  cases h with
  | unfetched h =>
    cases h with
    | unresolved | refused => exact steady_of_warning (by decide) (by decide)
  | @repeating _ graph reference h hd =>
    -- the snapshot repeats no reference, so it is the fetched graph that does
    obtain ⟨hrepeated, hn⟩ := repeated_of_diff hu hd
    obtain ⟨url, headers, hm⟩ := h.mem
    refine ⟨?_, ?_, ?_, nofun⟩
    · intro _ hr p url hf
      obtain rfl := Except.ok.inj hr
      have hmessage := congrArg Failure.message (List.mem_singleton.1 hf)
      exact message_duplicateReference_ne reference url hmessage.symm
    · intro _ hr url
      obtain rfl := Except.ok.inj hr
      exact ⟨fun hf => (nomatch List.mem_singleton.1 hf), fun hf => (nomatch List.mem_singleton.1 hf)⟩
    · intro _ hr _
      obtain rfl := Except.ok.inj hr
      exact ⟨url, headers, graph, reference, hcalls hm, hn, hrepeated, rfl⟩
  | stored h hd hem =>
    cases hem with
    | nothing | applied => exact steady_of_success _
    | refused | expired => exact steady_of_warning (by decide) (by decide)
  | halted h e =>
    cases e with
    | expired => exact steady_of_warning (by decide) (by decide)
    | crashed reason =>
      refine ⟨nofun, nofun, nofun, fun reason' hr => ?_⟩
      obtain rfl := Except.error.inj hr
      exact (he _ rfl).1

/-- A tick of such a service that nothing hinders comes to success. -/
theorem Account.success {r : Except Halt TickResult} (h : Account onlySubmodels service (moves.filter Move.isCall) entry r)
    (hu : service.Unrepeated) (he : ∀ e, r = .error e → Explained e moves) (hun : Unhindered service.url moves) :
    ∃ c, r = .ok (.success (some c)) := by
  obtain ⟨⟨headers, graph, hfetched, hn⟩, happlied, htimely⟩ := hun
  have hcall : .answered (.fetch service.url headers) (.ok (.ok graph)) ∈ moves.filter Move.isCall :=
    List.mem_filter.2 ⟨hfetched, rfl⟩
  have hmoves : ∀ m ∈ moves.filter Move.isCall, m ∈ moves := fun m hm => (List.mem_filter.1 hm).1
  generalize moves.filter Move.isCall = calls at h hcall hmoves
  cases h with
  | unfetched h => exact absurd hcall (h.not_mem _ _ _)
  | repeating h hd =>
    cases h.eq_of_mem hcall
    exact absurd hn (repeated_of_diff hu hd).2
  | stored h hd hem =>
    cases hem with
    | nothing | applied => exact ⟨_, rfl⟩
    | refused hc e =>
      exact absurd (hmoves _ (List.mem_append_right _ (List.mem_cons_of_mem _ (List.mem_singleton_self _)))) (happlied _ e)
    | expired hc =>
      exact absurd (hmoves _ (List.mem_append_right _ (List.mem_cons_of_mem _ (List.mem_singleton_self _)))) (htimely _)
  | halted h e =>
    cases e with
    | expired =>
      obtain ⟨r, hr⟩ := he _ rfl
      exact absurd hr (htimely r)
    | crashed reason => exact absurd hfetched ((he _ rfl).2 _ _ _)

/-- More moves do not make a tick less steady. -/
theorem Steady.mono {moves' : List Move} {result : Except String TickResult} (h : Steady onlySubmodels moves result)
    (hs : moves ⊆ moves') : Steady onlySubmodels moves' result := by
  refine ⟨h.conflict, h.registered, fun r hr hfatal => ?_, fun reason hr => ?_⟩
  · obtain ⟨url, headers, graph, reference, hm, hrest⟩ := h.fatal r hr hfatal
    exact ⟨url, headers, graph, reference, hs hm, hrest⟩
  · obtain ⟨url, headers, hm⟩ := h.crashed reason hr
    exact ⟨url, headers, hs hm⟩

/-- What hinders some of the moves hinders them all. -/
theorem Unhindered.of_subset {moves' : List Move} {url : AccessUrl} (h : Unhindered url moves') (hs : moves ⊆ moves')
    (hf : ∀ headers a, .answered (.fetch url headers) a ∈ moves' → .answered (.fetch url headers) a ∈ moves) :
    Unhindered url moves := by
  obtain ⟨headers, graph, hm, hn⟩ := h.fetched
  exact ⟨⟨headers, graph, hf _ _ hm, hn⟩, fun changes e hm => h.applied changes e (hs hm), fun r hm => h.timely r (hs hm)⟩

end Tick

namespace Synchronizer

open Tick

/-! ## The program of a tick -/

/-- What a tick does with its guard keeps what lasts, or ends early. -/
theorem turning_attempt (y : Synchronizer) (g : Guard) {I J : List Move → Prop} {E : Halt → List Move → Prop} (h : Turning I J E)
    (hi : I []) : (y.attempt g).Meets anything [] fun result ms => ∃ r, result = y.told r ∧
      (∀ c, r = .ok c → J ms ∧ ∀ timeout, c ≠ abandoned timeout) ∧ ∀ e, r = .error e → E e ms := by
  have hentry : (Program.request (.service g.url)).Meets anything [] fun _ => I :=
    ⟨trivial, fun a _ => h.before.asked hi (r := .service g.url) a nofun, trivial⟩
  refine hentry.seq ?_
  rintro (_ | service) ms hi
  · refine ⟨.ok (notRegistered g.url), rfl, ?_, nofun⟩
    rintro _ ⟨⟩
    exact ⟨h.uncalled hi, notRegistered_ne_abandoned _⟩
  · have hnow : (Program.request .now).Meets anything ms fun _ => I :=
      ⟨trivial, fun a _ => h.before.asked hi (r := .now) a nofun, trivial⟩
    refine hnow.seq fun start ms hi => ?_
    refine (h.pipeline hi y.onlySubmodels service (some (start + y.timeout))).seq ?_
    rintro ((_ | reason) | r) ms hr
    · exact ⟨.error .expired, rfl, nofun, fun _ he => Except.error.inj he ▸ hr⟩
    · exact ⟨.error (.crashed reason), rfl, nofun, fun _ he => Except.error.inj he ▸ hr⟩
    · exact ⟨.ok r, rfl, fun _ hc => Except.ok.inj hc ▸ hr, nofun⟩

/-- A tick that was abandoned, or that came to nothing, tells why by its moves. -/
theorem explained_attempt (y : Synchronizer) (g : Guard) : (y.attempt g).Meets anything [] fun result ms =>
    (result = .ok (abandoned y.timeout) → Explained .expired ms) ∧ ∀ reason, result = .error reason → Explained (.crashed reason) ms := by
  refine (y.turning_attempt g turning_explained fun _ _ _ => List.not_mem_nil).mono ?_
  rintro _ ms ⟨(_ | reason) | r, rfl, hok, herror⟩
  · exact ⟨fun _ => herror _ rfl, nofun⟩
  · exact ⟨nofun, fun _ h => Except.error.inj h ▸ herror _ rfl⟩
  · exact ⟨fun h => absurd (Except.ok.inj h) ((hok _ rfl).2 _), nofun⟩

/-- A tick that is asked for finds someone else at work, or makes its run with the guard. -/
theorem synchronize_eq (y : Synchronizer) (url : AccessUrl) : y.synchronize url = .ask (.tryMark url) fun
    | none => .done (.ok .skipped)
    | some g => y.runTick g >>= fun r => .done (r.map .completed) := by
  refine congrArg (Program.ask (.tryMark url)) (funext fun a => ?_)
  cases a <;> rfl

end Synchronizer

/-- Giving a guard back takes two moves. -/
theorem Program.Trace.of_release {α : Type} {g : Guard} {a : α} {ms : List Move} {q : Program α}
    (h : Trace (do Program.release g; return a) ms q) :
    (ms = [.answered (.unmark g) (), .answered .wake ()] ∧ q = .done a) ∨ ∃ r k, q = .ask r k ∧ r.prompt = true := by
  cases h with
  | nil => exact Or.inr ⟨.unmark g, _, rfl, rfl⟩
  | cons hm ht =>
    cases hm
    cases ht with
    | nil => exact Or.inr ⟨.wake, _, rfl, rfl⟩
    | cons hm ht =>
      cases hm
      cases ht with
      | nil => exact Or.inl ⟨rfl, rfl⟩
      | cons hm => nomatch hm

/-! ## Ticks among others -/

namespace State.Stint

open Tick

variable {s : Scheduler} {x z : State} {y : Synchronizer} {g : Guard} {k : Except String TickResult → Program Report}
  {service : Service} {ds : List Deed} {t : Task} {result : Except String TickResult} {q : Program (Except String TickResult)}

/-- A tick that has come to something made its attempt and gave the guard back. -/
theorem of_runTick (h : Stint s k x (y.runTick g) ds z t (.done result)) : ∃ k' ds₁ ds₂ z₁ u, ds = ds₁ ++ ds₂ ∧
    Stint s k' x (y.attempt g) ds₁ z₁ u (.done result) ∧
    ds₂.map Deed.move = [.answered (.unmark g) (), .answered .wake ()] := by
  rw [Synchronizer.runTick_eq] at h
  rcases h.of_bind with ⟨p', hq, _⟩ | ⟨ds₁, ds₂, z₁, u, r, rfl, hattempt, hrest⟩
  · cases p' <;> nomatch hq
  · rcases hrest.trace.of_release with ⟨hms, hr⟩ | ⟨_, _, hr, _⟩
    · cases hr
      exact ⟨_, ds₁, ds₂, z₁, u, rfl, hattempt, hms⟩
    · nomatch hr

/-- A tick of a service whose snapshot repeats no reference is steady, and comes to success if nothing hinders it. -/
theorem steady (h : Stint s k x (y.runTick g) ds z t (.done result)) (hx : x.Kept lawless)
    (hs : x.world.registry.get? g.url = some service) (hu : service.Unrepeated) :
    Tick.Steady y.onlySubmodels (ds.map Deed.move) result ∧
    (Unhindered g.url (ds.map Deed.move) → ∃ c, result = .ok (.success (some c))) := by
  obtain ⟨k', ds₁, ds₂, z₁, u, rfl, hattempt, hms⟩ := h.of_runTick
  obtain ⟨hurl, _, r, entry, rfl, hacc⟩ := hattempt.accounts hx hs
  obtain ⟨hexpired, hcrashed⟩ := (y.explained_attempt g).ends hattempt.trace fun m _ => by cases m <;> trivial
  have he : ∀ e, r = .error e → Explained e (ds₁.map Deed.move) := by
    rintro (_ | reason) rfl
    · exact hexpired rfl
    · exact hcrashed reason rfl
  have hsubset : ds₁.map Deed.move ⊆ (ds₁ ++ ds₂).map Deed.move := by
    rw [List.map_append]
    exact List.subset_append_left _ _
  refine ⟨(hacc.account.steady hu (fun m hm => (List.mem_filter.1 hm).1) he).mono hsubset, fun hun => ?_⟩
  have hun' : Unhindered service.url (ds₁.map Deed.move) := by
    rw [hurl]
    refine hun.of_subset hsubset fun headers a hm => ?_
    rw [List.map_append, hms] at hm
    simpa using hm
  obtain ⟨c, rfl⟩ := hacc.account.success hu he hun'
  exact ⟨c, rfl⟩

/-- A tick of a registered service is never stuck. -/
theorem runTick_progress (h : Stint s k x (y.runTick g) ds z t q) (hx : x.Kept lawless)
    (hs : x.world.registry.get? g.url = some service) (v : World) :
    (∃ result, q = .done result) ∨ ∃ m v' q', Program.Step v q m v' q' := by
  have hmeets := y.meets_attempt (A := fun r => r.steady = true) (R := World.Spares g.url) (hx.sane.keyed _ _ hs) (fun _ hr => hr)
    (fun _ _ hr => hr.entry) (l := ⟨[], x.world⟩) ⟨hs, rfl⟩
  rw [Synchronizer.runTick_eq] at h
  rcases h.of_bind with ⟨p', rfl, hattempt⟩ | ⟨ds₁, ds₂, z₁, u, r, rfl, _, hrest⟩
  · obtain ⟨w, hw, _⟩ := hattempt.works hx (r := .service g.url) .ask rfl hmeets
    rcases (hmeets.works hw).1.progress v with ⟨r, rfl⟩ | ⟨m, v', p'', hstep⟩
    · exact Or.inr (Program.exists_step v (r := .unmark g) rfl)
    · exact Or.inr ⟨m, v', _, hstep.bind _⟩
  · rcases hrest.trace.of_release with ⟨_, rfl⟩ | ⟨r, k, rfl, hr⟩
    · exact Or.inl ⟨_, rfl⟩
    · exact Or.inr (Program.exists_step v hr)

/-- A tick whose service is not registered when it begins comes to just that. -/
theorem unregistered {d : Deed} (h : Stint s k x (y.runTick g) (d :: ds) z t (.done result)) (hd : d.before = x.world)
    (hs : x.world.registry.get? g.url = none) : result = .ok (notRegistered g.url) := by
  rw [Synchronizer.runTick_eq] at h
  obtain ⟨v₀, v, u, a, rfl, _, _, ha, hrest⟩ := of_ask (r := .service g.url) h
  have hw : v₀.world = x.world := hd
  rw [hw] at ha
  cases ha with
  | world ha =>
    obtain ⟨rfl, _⟩ := Prod.mk.inj (Option.some.inj ha)
    rw [hs] at hrest
    have htrace : Program.Trace (do Program.release g; return (.ok (notRegistered g.url))) (ds.map Deed.move) (.done result) :=
      hrest.trace
    rcases htrace.of_release with ⟨_, hr⟩ | ⟨_, _, hr, _⟩
    · exact Program.done.inj hr
    · nomatch hr

/-- A tick that is asked for in a state in which its service is not in flight takes the guard, and then it is run. -/
theorem of_synchronize {k : Except String TickOutcome → Program Report} {url : AccessUrl} {d : Deed}
    {q : Program (Except String TickOutcome)} (h : Stint s k x (y.synchronize url) (d :: ds) z t q) (hd : d.before = x.world)
    (hu : url ∉ x.world.inFlight) : ∃ es v g k' z' t' p', g.url = url ∧ State.Run s x es v ∧ v.world.registry = x.world.registry ∧
      d.move = .answered (.tryMark url) (some g) ∧ Stint s k' v (y.runTick g) ds z' t' p' ∧
      q = p' >>= fun r => .done (r.map .completed) := by
  rw [Synchronizer.synchronize_eq] at h
  obtain ⟨v₀, v, u, a, rfl, hwait, hstep, ha, hrest⟩ := h.of_ask
  have hw : v₀.world = x.world := hd
  rw [hw] at ha
  obtain ⟨es, hrun⟩ := hwait.run
  cases ha with
  | world ha =>
    have hmark : x.world.tryMark url = (a, v.world) := Option.some.inj ha
    cases a with
    | none => exact absurd (World.tryMark_eq_none hmark).1 hu
    | some g =>
      obtain ⟨_, rfl, hv⟩ := World.tryMark_eq_some hmark
      have hregistry : v.world.registry = x.world.registry := by rw [hv]
      rcases hrest.of_bind with ⟨p', rfl, hp⟩ | ⟨ds₁, ds₂, z', t', r, rfl, hr, hdone⟩
      · exact ⟨_, v, _, _, z, t, p', rfl, hrun.step hstep, hregistry, rfl, hp, rfl⟩
      · have htrace := hdone.trace
        generalize hms : ds₂.map Deed.move = ms at htrace
        cases htrace with
        | nil =>
          rw [List.map_eq_nil_iff.1 hms, List.append_nil]
          exact ⟨_, v, _, _, z', t', .done r, rfl, hrun.step hstep, hregistry, rfl, hr, rfl⟩
        | cons hm => nomatch hm

/-- A tick that is asked for of a service that is not in flight, and whose snapshot repeats no reference, is never stuck, and comes to
success if nothing hinders it. -/
theorem completes {k : Except String TickOutcome → Program Report} {url : AccessUrl} {d : Deed}
    {q : Program (Except String TickOutcome)} (h : Stint s k x (y.synchronize url) (d :: ds) z t q) (hx : x.Kept lawless)
    (hs : x.world.registry.get? url = some service) (hservice : service.Unrepeated) (hd : d.before = x.world)
    (hu : url ∉ x.world.inFlight) :
    ((∃ outcome, q = .done outcome) ∨ ∃ m w q', Program.Step z.world q m w q') ∧
    ∀ outcome, q = .done outcome → Unhindered url ((d :: ds).map Deed.move) →
      ∃ c, outcome = .ok (.completed (.success (some c))) := by
  obtain ⟨es, v, g, k', z', t', p', rfl, hrun, hregistry, hmark, hrest, rfl⟩ := h.of_synchronize hd hu
  have hv : v.Kept lawless := hrun.kept hx fun e _ => lawless_allows e
  have hs' : v.world.registry.get? g.url = some service := hregistry ▸ hs
  refine ⟨?_, fun outcome hq hun => ?_⟩
  · rcases hrest.runTick_progress hv hs' z.world with ⟨r, rfl⟩ | ⟨m, w, p'', hstep⟩
    · exact Or.inl ⟨_, rfl⟩
    · exact Or.inr ⟨m, w, _, hstep.bind _⟩
  · obtain ⟨r, rfl⟩ : ∃ r, p' = .done r := by
      cases p' with
      | done r => exact ⟨r, rfl⟩
      | ask | within | hold => nomatch hq
    cases hq
    -- taking the guard is no call of the client
    have hun' : Unhindered g.url (ds.map Deed.move) := by
      refine hun.of_subset (List.subset_cons_self _ _) fun headers a hm => ?_
      rcases List.mem_cons.1 hm with hm | hm
      · rw [hmark] at hm
        nomatch hm
      · exact hm
    obtain ⟨c, rfl⟩ := (hrest.steady hv hs' hservice).2 hun'
    exact ⟨c, rfl⟩

end State.Stint

open Tick

/-! ## Recovery -/

/-- In every state of a run from an empty registry to which callers bring only services that they build, or copies of what the registry
had, no snapshot repeats a reference. A tick that makes its first move there never ends with a conflict, nor finds its service missing
once it has found it; unless the client crashes it comes to something, and to something fatal only over a reference that the graph
which it fetched repeats. Whatever failed before, it comes to success if its service is registered, the graph that it fetches repeats
no reference, and the catalog takes the changes in time. If the service is not in flight, a tick that is asked for is such a tick, and
never stuck. -/
theorem State.Run.recovers {s : Scheduler} {start x : State} {es : List Event} (h : State.Run s start es x) (hq : start.Quiet)
    (he : start.world.registry = .empty) (hm : State.Supplied s start es) :
    (∀ url service, x.world.registry.get? url = some service → service.Unrepeated) ∧
    (∀ {y : Synchronizer} {g k d ds z t result}, State.Stint s k x (y.runTick g) (d :: ds) z t (.done result) → d.before = x.world →
      Steady y.onlySubmodels ((d :: ds).map Deed.move) result ∧
      (x.world.registry.contains g.url = true → Unhindered g.url ((d :: ds).map Deed.move) →
        ∃ c, result = .ok (.success (some c)))) ∧
    ∀ {y : Synchronizer} {url k d ds z t q}, x.world.registry.contains url = true → url ∉ x.world.inFlight →
      State.Stint s k x (y.synchronize url) (d :: ds) z t q → d.before = x.world →
      ((∃ outcome, q = .done outcome) ∨ ∃ m w q', Program.Step z.world q m w q') ∧
      ∀ outcome, q = .done outcome → Unhindered url ((d :: ds).map Deed.move) →
        ∃ c, outcome = .ok (.completed (.success (some c))) := by
  have hkept : x.Kept Engine.unrepeated := h.unrepeated hq he hm
  have hlawless : x.Kept lawless := h.kept (hq.kept fun _ => trivial) fun e _ => lawless_allows e
  have hsound : ∀ url service, x.world.registry.get? url = some service → service.Unrepeated :=
    fun url service hs => hkept.sound_of_lossy trivial url service hs
  refine ⟨hsound, ?_, ?_⟩
  · intro y g k d ds z t result hst hd
    cases hs : x.world.registry.get? g.url with
    | some service =>
      obtain ⟨hsteady, hsuccess⟩ := hst.steady hlawless hs (hsound _ _ hs)
      exact ⟨hsteady, fun _ => hsuccess⟩
    | none =>
      obtain rfl := hst.unregistered hd hs
      refine ⟨steady_of_warning (by decide) (by decide), fun hc => ?_⟩
      rw [Registry.contains, hs] at hc
      cases hc
  · intro y url k d ds z t q hc hu hst hd
    obtain ⟨service, hs⟩ := Option.isSome_iff_exists.1 hc
    exact hst.completes hlawless hs (hsound _ _ hs) hd hu

/-- Whether a move is one that hinders a tick. -/
def Move.hinders : Move → Bool
  | .expired _ | .answered (.apply _ _) (.error _) => true
  | _ => false

/-- Whether the client gave a graph without repeated references in a move. -/
def Move.brings (url : AccessUrl) : Move → Bool
  | .answered (.fetch u _) (.ok (.ok graph)) => decide (u = url ∧ graph.references.Nodup)
  | _ => false

/-- Whether a tick is hindered is decided by its moves. -/
theorem Tick.unhindered_of_brings {url : AccessUrl} {moves : List Move} (hb : moves.any (Move.brings url) = true)
    (hh : moves.any Move.hinders = false) : Unhindered url moves := by
  have hnot : ∀ m ∈ moves, m.hinders = false := fun m hm => Bool.eq_false_iff.2 (List.any_eq_false.1 hh m hm)
  refine ⟨?_, fun changes e hm => ?_, fun r hm => ?_⟩
  · obtain ⟨m, hm, hbrings⟩ := List.any_eq_true.1 hb
    unfold Move.brings at hbrings
    split at hbrings
    · rename_i headers graph
      obtain ⟨rfl, hn⟩ := of_decide_eq_true hbrings
      exact ⟨headers, graph, hm, hn⟩
    · nomatch hbrings
  · nomatch hnot _ hm
  · nomatch hnot _ hm

/-- A service is registered and ticked, unregistered, and registered anew as it was. The next tick fails fatally, for its graph repeats
a reference; and the tick after that brings what has changed since the first one. -/
theorem State.Run.recovers_after_repeated_reference :
    let url : AccessUrl := ⟨"http://host"⟩
    let s : Scheduler := ⟨⟨false, 50⟩, false, [], 1000⟩
    let start : State := ⟨World.initial (.ofNat 1), [], []⟩
    let a : Reference := .root .submodel "a"
    let copy : Service := ⟨url, .none, some ⟨0, ⟨[.root .submodel "a" .null]⟩⟩, some 0, none⟩
    let repeating : Outcome (Option Brought) := .fatal [Phase.diffing.failure (.model (.duplicateReference a))]
    ∃ es x k d ds z t outcome, State.Run s start es x ∧ start.Quiet ∧ start.world.registry = .empty ∧ State.Supplied s start es ∧
      Operation.register copy ∈ es.filterMap Event.call? ∧
      (x.sight url).told = [.success (some ⟨[a], []⟩), .success (some ⟨[], [a]⟩), repeating] ∧
      x.world.registry.contains url = true ∧ url ∉ x.world.inFlight ∧
      State.Stint s k x (s.synchronizer.synchronize url) (d :: ds) z t (.done outcome) ∧ d.before = x.world ∧
      Unhindered url ((d :: ds).map Deed.move) ∧ ∃ c, outcome = .ok (.completed (.success (some c))) := by
  intro url s start a copy repeating
  let old : Graph := ⟨[.root .submodel "a" .null]⟩
  let new : Graph := ⟨[.root .submodel "b" .null]⟩
  let twice : Graph := ⟨[.root .submodel "a" .null, .root .submodel "a" .null]⟩
  let go (n : Nat) : List Choice := List.replicate n (.move 0 .go)
  let tick (g : Graph) (rest : Nat) : List Choice := .call (.synchronize url) :: go 3 ++ .move 0 (.fetched (.ok (.ok g))) :: go rest ++
    [.finish 0]
  let first : List Choice := [.call (.register (.fresh url)), .move 0 .go, .finish 0] ++ tick old 6
  let second : List Choice := .call (.unregister url) :: go 6 ++ [.finish 0, .call (.register copy), .move 0 .go, .finish 0] ++
    tick twice 4
  let cues : List (Nat × Cue) := List.replicate 3 (0, .go) ++ (0, .fetched (.ok (.ok new))) :: List.replicate 6 (0, .go)
  have hcopy : (State.replay s start first).map (fun r => r.2.world.registry.get? url) = some (some copy) := by cbv
  have hplayed : ((State.replay s start first).bind fun r => (r.2.replay s second).bind fun r' =>
      ((s.synchronizer.synchronize url).work? { r'.2.world with taskCount := r'.2.world.taskCount + 1 } cues).map fun r'' =>
        ((r'.2.sight url).told, r'.2.world.registry.contains url, r'.2.world.inFlight.contains url,
          (r''.1.map Deed.move).any (Move.brings url), (r''.1.map Deed.move).any Move.hinders, r''.2.2.value?.isSome)) =
      some ([.success (some ⟨[a], []⟩), .success (some ⟨[], [a]⟩), repeating], true, false, true, false, true) := by
    decide +kernel +zetaReduce
  obtain ⟨⟨es, v⟩, hfirst, h⟩ := Option.bind_eq_some_iff.1 hplayed
  obtain ⟨⟨es', ⟨w, ts, past⟩⟩, hsecond, h⟩ := Option.bind_eq_some_iff.1 h
  obtain ⟨⟨ds, w', q⟩, hwork, h⟩ := Option.map_eq_some_iff.1 h
  obtain ⟨htold, hc, hu, hbrings, hhinders, hvalue⟩ : _ ∧ _ ∧ _ ∧ _ ∧ _ ∧ _ := by simpa only [Prod.mk.injEq] using h
  rw [hfirst] at hcopy
  have hv : State.Run s start es v := State.run_of_replay hfirst
  have hcalls : es.filterMap Event.call? = [.register (.fresh url), .synchronize url] := State.calls_of_replay hfirst
  have hcalls' : es'.filterMap Event.call? = [.unregister url, .register copy, .synchronize url] := State.calls_of_replay hsecond
  have hsupplied : State.Supplied s start (es ++ es' ++ [.called w.taskCount (.synchronize url)]) := by
    have hknown : copy.Made (State.Saw s start es) := .copied ⟨es, v, url, List.prefix_rfl, hv, Option.some.inj hcopy⟩
    have hempty : State.Supplied s start [] := by
      intro es₁ id op es₂ he
      simp at he
    have hbuilt : State.Supplied s start ([] ++ es) := by
      refine hempty.append ?_
      rw [hcalls]
      simp [Operation.Makes, Service.Made.fresh]
    have hcopied : State.Supplied s start (es ++ es') := by
      refine State.Supplied.append hbuilt ?_
      rw [hcalls']
      simp [Operation.Makes, hknown]
    exact hcopied.append (by simp [Event.call?, Operation.Makes])
  have hregistered : Operation.register copy ∈ (es ++ es' ++ [Event.called w.taskCount (.synchronize url)]).filterMap Event.call? := by
    simp [List.filterMap_append, hcalls']
  let t : Task := .start s w.taskCount (.operation (.synchronize url))
  let x : State := ⟨{ w with taskCount := w.taskCount + 1 }, ts ++ t :: [], past⟩
  have hrun : State.Run s start (es ++ es' ++ [.called w.taskCount (.synchronize url)]) x :=
    (hv.append (State.run_of_replay hsecond)).step (.call w ts past _)
  obtain ⟨outcome, hq⟩ := Option.isSome_iff_exists.1 hvalue
  obtain rfl := Program.eq_done_of_value? hq
  obtain ⟨d, ds', rfl, hd⟩ := Program.head_of_work? hwork
  obtain ⟨t', hst⟩ := (Program.works_of_work? (R := World.Passes) hwork fun v n => ⟨n, rfl⟩).stint
    (.start (List.mem_append_right _ (List.mem_singleton_self t)) rfl)
  have hquiet : start.Quiet := State.quiet_initial _
  have hunhindered : Unhindered url ((d :: ds').map Deed.move) := Tick.unhindered_of_brings hbrings hhinders
  have hmark : url ∉ x.world.inFlight := by simpa using hu
  exact ⟨_, x, _, d, ds', _, t', outcome, hrun, hquiet, rfl, hsupplied, hregistered, htold, hc, hmark, hst, hd, hunhindered,
    ((hrun.recovers hquiet rfl hsupplied).2.2 hc hmark hst hd).2 outcome rfl hunhindered⟩

end Engine

end CatalogSync
