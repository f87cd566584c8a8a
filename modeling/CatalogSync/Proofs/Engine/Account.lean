import CatalogSync.Proofs.Catalog.Patch
import CatalogSync.Proofs.Engine.Work

/-!
# What a tick comes to

A tick of a registered service whose entry nobody else changes ends in one of a few ways (`Tick.Account`): nothing was fetched, a
graph repeats a reference, or the graph was stored and its changes, if there are any, were handed to the catalog. In all but the last
the tick leaves the registry and the catalog alone. Each step of the tick leads from one condition on the log of what was done to the
next, and once a step has dropped what the tick works on the later ones do nothing.
-/

namespace CatalogSync.Engine

namespace Tick

/-! ## What a tick may come to -/

/-- The graph that a tick works on: all of what was fetched, or its submodels only. -/
def keptGraph (onlySubmodels : Bool) (graph : Graph) : Graph :=
  if onlySubmodels then graph.retainKinds [.submodel] else graph

/-- The headers of a request, given what the secret store answers. -/
def headersWith (auth : AuthMethod) (secret : Option String) : Except SyncError Headers := Id.run (auth.headers fun _ => pure secret)

/-- The call for the secret of a method, if it needs one. -/
def lookups : AuthMethod → Option String → List Move
  | .vault name, secret => [.answered (.resolve name) secret]
  | _, _ => []

/-- The calls of a tick that fetched a graph. -/
inductive Fetching (s : Service) (graph : Graph) : List Move → Prop where
  | fetched {secret : Option String} {headers : Headers} (h : headersWith s.auth secret = .ok headers) :
    Fetching s graph (lookups s.auth secret ++ [.answered (.fetch s.url headers) (.ok (.ok graph))])

/-- The calls of a tick that fetched nothing, and its failures. -/
inductive Unfetched (s : Service) : List Move → List Failure → Prop where
  /-- Without headers the client is not called. -/
  | unresolved {secret : Option String} {e : SyncError} (h : headersWith s.auth secret = .error e) :
    Unfetched s (lookups s.auth secret) [⟨.warning, some "fetching", e.message⟩]
  | refused {secret : Option String} {headers : Headers} (h : headersWith s.auth secret = .ok headers) (e : FetchError) :
    Unfetched s (lookups s.auth secret ++ [.answered (.fetch s.url headers) (.ok (.error e))])
      [⟨.warning, some "fetching", (SyncError.fetch e).message⟩]

/-- How changes are handed to the catalog: the calls, and what the tick comes to. -/
inductive Emission (url : AccessUrl) (c : ResourceChanges) : List Move → Except Halt TickResult → Prop where
  /-- The catalog is not called for nothing. -/
  | nothing (h : c.isEmpty = true) : Emission url c [] (.ok (.success (some c)))
  | applied (h : c.isEmpty = false) : Emission url c [.answered (.apply url c) (.ok ())] (.ok (.success (some c)))
  | refused (h : c.isEmpty = false) (e : ApplyError) : Emission url c [.answered (.apply url c) (.error e)]
    (.ok (.recoverable (some (some c)) [⟨.warning, some "emitting", (SyncError.apply e).message⟩]))
  /-- The deadline took effect before the catalog was done. -/
  | expired (h : c.isEmpty = false) : Emission url c [.expired (.apply url c)] (.error .expired)

/-- What a tick of a service comes to, or why it ended early, with its calls and the entry that it leaves. -/
inductive Account (onlySubmodels : Bool) (s : Service) : List Move → Service → Except Halt TickResult → Prop where
  | unfetched {calls : List Move} {fs : List Failure} (h : Unfetched s calls fs) :
    Account onlySubmodels s calls s (.ok (.recoverable (some none) fs))
  /-- The graph or the one before it repeats a reference. -/
  | repeating {calls : List Move} {graph : Graph} {r : Reference} (h : Fetching s graph calls)
    (hd : Graph.diff (s.snapshot.map Snapshot.graph) (keptGraph onlySubmodels graph) = .error (.duplicateReference r))
    (hr : ¬(keptGraph onlySubmodels graph).references.Nodup ∨ ∃ x, s.snapshot = some x ∧ ¬x.graph.references.Nodup) :
    Account onlySubmodels s calls s
      (.ok (.fatal [⟨.fatal, some "diffing", (SyncError.model (.duplicateReference r)).message⟩]))
  /-- The graph was stored, and its changes were handed to the catalog. -/
  | stored {calls emission : List Move} {graph : Graph} {c : ResourceChanges} {id time : Nat} {r : Except Halt TickResult}
    (h : Fetching s graph calls)
    (hd : Graph.diff (s.snapshot.map Snapshot.graph) (keptGraph onlySubmodels graph) = .ok c)
    (he : Emission s.url c emission r) :
    Account onlySubmodels s
      (calls ++ .answered (.swap s.url s.snapshot ⟨id, keptGraph onlySubmodels graph⟩) (.ok s.snapshot) :: emission)
      { s with snapshot := some ⟨id, keptGraph onlySubmodels graph⟩, lastSynced := some time } r
  /-- The tick ended early, before it had stored anything. -/
  | halted {calls : List Move} (h : ∀ m ∈ calls, m.commits = false) (e : Halt) : Account onlySubmodels s calls s (.error e)

end Tick

/-! ## Logs of a tick -/

/-- A log after which a URL has an entry, with calls made so far. -/
structure Log.At (l : Log) (url : AccessUrl) (entry : Service) (calls : List Move) : Prop where
  entry : l.world.registry.get? url = some entry
  calls : Deed.calls l.deeds = calls

/-- A log that shows what a tick came to. -/
def Log.Shows (l : Log) (onlySubmodels : Bool) (s : Service) (r : Except Halt TickResult) : Prop :=
  ∃ calls entry, Tick.Account onlySubmodels s calls entry r ∧ l.At s.url entry calls

/-- That others leave the entry of a URL as it is, if there is one. -/
def KeepsEntry (R : World → World → Prop) (url : AccessUrl) : Prop :=
  ∀ v v', R v v' → ∀ s, v.registry.get? url = some s → v'.registry.get? url = some s

section

variable {A : Request → Prop} {R : World → World → Prop} {url : AccessUrl} {s : Service} {calls : List Move} {l : Log}

/-- The log after a move that leaves the entry as it is. -/
theorem Log.At.add (h : l.At url s calls) (hR : KeepsEntry R url) {v v' : World} {m : Move} (hr : R l.world v)
    (hm : v'.registry = v.registry) : (l.add v m v').At url s (calls ++ [m].filter Move.isCall) := by
  refine ⟨?_, by rw [l.calls_add, h.calls]⟩
  show v'.registry.get? url = some s
  rw [hm]
  exact hR _ _ hr s h.entry

/-- Asking for something that no one is called for and that changes no entry. -/
theorem Log.At.ask (h : l.At url s calls) (hR : KeepsEntry R url) {r : Request} {K : r.Answer → Log → Prop} {E : Log → Prop}
    (hA : A r) (hs : r.prompt = true ∧ r.isCall = false)
    (hK : ∀ a v v', R l.world v → Answers v r a v' → (l.add v (.answered r a) v').At url s calls →
      K a (l.add v (.answered r a) v')) (hE : ∀ l', l'.At url s calls → E l') : (working A R).ask l r K E := by
  obtain ⟨hprompt, hcall⟩ := hs
  have hwrites : ∀ a, (Move.answered r a).writes = false :=
    fun a => Bool.eq_false_iff.2 fun hw => Bool.eq_false_iff.1 hcall (Move.isCall_of_writes hw)
  have hadd : ∀ {v v' m}, R l.world v → v'.registry = v.registry → m.isCall = false → (l.add v m v').At url s calls := by
    intro v v' m hr hv hm
    have ha := h.add hR (m := m) hr hv
    rwa [List.filter_cons_of_neg (by simp [hm]), List.filter_nil, List.append_nil] at ha
  refine ⟨hA, hprompt, fun v hr => ⟨fun a v' ha => ?_, ?_⟩⟩
  · exact hK a v v' hr ha (hadd hr (ha.idle (hwrites a)).1 hcall)
  · exact hE _ (hadd hr rfl hcall)

/-- Calling for something that changes no entry. -/
theorem Log.At.call (h : l.At url s calls) (hR : KeepsEntry R url) {r : Request} {K : r.Answer → Log → Prop} {E : Log → Prop}
    (hA : A r) (hs : r.prompt = true ∧ r.isCall = true) (hw : ∀ v a v', Answers v r a v' → v'.registry = v.registry)
    (hK : ∀ a l', l'.At url s (calls ++ [.answered r a]) → K a l')
    (hE : ∀ l', l'.At url s (calls ++ [.expired r]) → E l') : (working A R).ask l r K E := by
  obtain ⟨hprompt, hcall⟩ := hs
  have hadd : ∀ {v v' m}, R l.world v → v'.registry = v.registry → m.isCall = true → (l.add v m v').At url s (calls ++ [m]) := by
    intro v v' m hr hv hm
    have ha := h.add hR (m := m) hr hv
    rwa [List.filter_cons_of_pos hm, List.filter_nil] at ha
  exact ⟨hA, hprompt, fun v hr =>
    ⟨fun a v' ha => hK a _ (hadd hr (hw v a v' ha) hcall), hE _ (hadd hr rfl hcall)⟩⟩

/-- Telling the sink about a failure is not a call. -/
theorem silent_at (hA : ∀ r, r.steady = true → A r) (hR : KeepsEntry R url) (s : Service) (calls : List Move) :
    (working A R).Silent fun l => l.At url s calls :=
  fun _ h _ _ => h.ask hR (hA _ rfl) ⟨rfl, rfl⟩ (fun _ _ _ _ _ ha => ha) fun _ _ => trivial

/-- A log without committing calls shows a tick that ended early. -/
theorem Log.At.halted (h : l.At s.url s calls) (hw : ∀ m ∈ calls, m.commits = false) (onlySubmodels : Bool) (e : Halt) :
    l.Shows onlySubmodels s (.error e) := ⟨calls, s, .halted hw e, h⟩

end

namespace Tick

open Timed

variable {A : Request → Prop} {R : World → World → Prop} {s : Service} {l : Log} {onlySubmodels : Bool}

/-! ## What is known between the steps -/

/-- Nothing was fetched, and that is all. -/
def Dropped (s : Service) (fs : List Failure) (l : Log) : Prop := ∃ calls, Unfetched s calls fs ∧ l.At s.url s calls

/-- What fetching leads to. -/
def afterFetching (onlySubmodels : Bool) (s : Service) : Option Fetched → List Failure → Log → Prop
  | none, fs, l => Dropped s fs l
  | some f, fs, l => fs = [] ∧ ∃ graph calls, f = ⟨s, keptGraph onlySubmodels graph⟩ ∧ Fetching s graph calls ∧ l.At s.url s calls

/-- A fetched graph with its changes against the snapshot of the service. -/
inductive Compared (onlySubmodels : Bool) (s : Service) : List Move → Diffed → Prop where
  | intro {calls : List Move} {graph : Graph} {c : ResourceChanges} (h : Fetching s graph calls) (id : Nat)
    (hd : Graph.diff (s.snapshot.map Snapshot.graph) (keptGraph onlySubmodels graph) = .ok c) :
    Compared onlySubmodels s calls ⟨s.url, s.snapshot, ⟨id, keptGraph onlySubmodels graph⟩, c⟩

/-- What the comparison leads to. -/
def afterDiffing (onlySubmodels : Bool) (s : Service) : Option Diffed → List Failure → Log → Prop
  | none, fs, l => Dropped s fs l
  | some d, fs, l => fs = [] ∧ ∃ calls, Compared onlySubmodels s calls d ∧ l.At s.url s calls

/-- What storing the graph leads to. -/
def afterUpdating (onlySubmodels : Bool) (s : Service) : Option Diffed → List Failure → Log → Prop
  | none, fs, l => Dropped s fs l
  | some d, fs, l => fs = [] ∧ ∃ calls time, Compared onlySubmodels s calls d ∧
      l.At s.url { s with snapshot := some d.new, lastSynced := some time }
        (calls ++ [.answered (.swap s.url s.snapshot d.new) (.ok s.snapshot)])

/-- What a whole run leads to. -/
def afterEmitting (onlySubmodels : Bool) (s : Service) (x : Option ResourceChanges) (fs : List Failure) (l : Log) : Prop :=
  l.Shows onlySubmodels s (.ok (Chain.outcome (some x, fs)))

/-- What a fatal step leads to. -/
def afterStop (onlySubmodels : Bool) (s : Service) (fs : List Failure) (l : Log) : Prop :=
  l.Shows onlySubmodels s (.ok (.fatal fs))

/-! ## Failures and calls -/

/-- A warning is recoverable, with no content. -/
theorem failed_of_warning {α : Type} {e : SyncError} (h : e.isFatal = false) :
    (failed e : Outcome (Option α)) = .recoverable none [⟨.warning, none, e.message⟩] := by
  simp [failed, SyncError.toFailure, h, Outcome.ofFailure, Failure.ofSeverity, Failure.isFatal]

/-- Any other failure of a step ends the pipeline. -/
theorem failed_of_fatal {α : Type} {e : SyncError} (h : e.isFatal = true) :
    (failed e : Outcome (Option α)) = .fatal [⟨.fatal, none, e.message⟩] := by
  simp [failed, SyncError.toFailure, h, Outcome.ofFailure, Failure.ofSeverity, Failure.isFatal]

/-- Only a missing secret keeps headers from being found. -/
theorem isFatal_of_headersWith {auth : AuthMethod} {secret : Option String} {e : SyncError}
    (h : headersWith auth secret = .error e) : e.isFatal = false := by
  cases auth with
  | none | basic | apiKey => nomatch h
  | vault name =>
    cases secret with
    | none =>
      cases h
      rfl
    | some value => nomatch h

/-- Resolving a secret commits nothing. -/
theorem uncommitted_lookups (auth : AuthMethod) (secret : Option String) : ∀ m ∈ lookups auth secret, m.commits = false := by
  cases auth <;> simp [lookups, Move.commits, Move.writes]

/-- Calls that do not commit, and one more of that kind. -/
theorem uncommitted_concat {calls : List Move} {m : Move} (h : ∀ m ∈ calls, m.commits = false) (hm : m.commits = false) :
    ∀ m' ∈ calls ++ [m], m'.commits = false := by
  intro m' h'
  rcases List.mem_append.1 h' with h' | h'
  · exact h m' h'
  · obtain rfl := List.mem_singleton.1 h'
    exact hm

/-- Nor does fetching, whatever comes of it. -/
theorem Fetching.uncommitted {graph : Graph} {calls : List Move} (h : Fetching s graph calls) :
    ∀ m ∈ calls, m.commits = false := by
  cases h with
  | fetched => exact uncommitted_concat (uncommitted_lookups _ _) rfl

/-- Fetching applies nothing. -/
theorem Fetching.applied {graph : Graph} {calls : List Move} (h : Fetching s graph calls) (url : AccessUrl) :
    calls.filterMap (Move.applied url) = [] := by
  rw [List.filterMap_eq_nil_iff]
  exact fun m hm => Move.applied_of_commits_eq_false (h.uncommitted m hm) url

/-- Nor does comparing what was fetched with the snapshot. -/
theorem Compared.uncommitted {calls : List Move} {d : Diffed} (h : Compared onlySubmodels s calls d) :
    ∀ m ∈ calls, m.commits = false := by
  cases h with
  | intro h => exact h.uncommitted

variable (hA : ∀ r, r.steady = true → A r) (hR : KeepsEntry R s.url)

include hA hR

/-! ## The steps -/

/-- Building the headers looks up the secret that the credentials name, if they name one. -/
theorem meets_headers (h : l.At s.url s []) (auth : AuthMethod) :
    Timed.Meets (working A R) (auth.headers fun name => Timed.request (.resolve name)) l
      (fun r l => ∃ secret, headersWith auth secret = r ∧ l.At s.url s (lookups auth secret))
      fun e l => l.Shows onlySubmodels s (.error e) := by
  refine Timed.Meets.seq (Q := fun r l => ∃ secret, Id.run (auth.header fun _ => pure secret) = r ∧
    l.At s.url s (lookups auth secret)) ?_ ?_
  · cases auth with
    | none => exact meets_pure ⟨none, rfl, h⟩
    | basic username password => exact meets_pure ⟨none, rfl, h⟩
    | apiKey name value => exact meets_pure ⟨none, rfl, h⟩
    | vault name =>
      have hresolve : (working A R).ask l (.resolve name) (fun a l => l.At s.url s [.answered (.resolve name) a])
          (fun l => l.Shows onlySubmodels s (.error .expired)) := by
        refine h.call hR (hA _ rfl) ⟨rfl, rfl⟩ (fun v a v' ha => (ha.idle rfl).1) (fun _ _ ha => ha) fun l he => ?_
        exact he.halted (by simp [Move.commits, Move.writes]) _ _
      refine (meets_request hresolve).seq ?_
      rintro (_ | value) l ha
      · exact meets_pure ⟨none, rfl, ha⟩
      · exact meets_pure ⟨some value, rfl, ha⟩
  · rintro r l ⟨secret, rfl, ha⟩
    exact meets_pure ⟨secret, rfl, ha⟩

/-- Fetching makes the calls of one of its branches, and its outcome is that branch's. -/
theorem meets_fetching (h : l.At s.url s []) :
    Timed.Meets (working A R) (fetching.apply s) l
      (Staged (afterFetching false s) (afterStop onlySubmodels s) fetching.name [] none)
      fun e l => l.Shows onlySubmodels s (.error e) := by
  refine (meets_headers hA hR h s.auth).seq ?_
  rintro (e | headers) l ⟨secret, hheaders, ha⟩
  · refine meets_pure ?_
    rw [failed_of_warning (isFatal_of_headersWith hheaders)]
    exact ⟨_, .unresolved hheaders, ha⟩
  · have hfetch : (working A R).ask l (.fetch s.url headers)
        (fun a l => l.At s.url s (lookups s.auth secret ++ [.answered (.fetch s.url headers) a]))
        (fun l => l.Shows onlySubmodels s (.error .expired)) := by
      refine ha.call hR (hA _ rfl) ⟨rfl, rfl⟩ (fun v a v' ha => (ha.idle rfl).1) (fun _ _ ha => ha) fun l he => ?_
      exact he.halted (uncommitted_concat (uncommitted_lookups _ _) rfl) _ _
    refine (meets_request hfetch).seq ?_
    rintro (reason | e | graph) l ha
    · exact meets_halt (ha.halted (uncommitted_concat (uncommitted_lookups _ _) rfl) _ _)
    · refine meets_pure ?_
      rw [failed_of_warning rfl]
      exact ⟨_, .refused hheaders e, ha⟩
    · exact meets_pure (Q := Staged _ _ _ _ _) ⟨rfl, graph, _, rfl, .fetched hheaders, ha⟩

/-- A later step does nothing with what was dropped. -/
theorem silent_dropped (fs : List Failure) : (working A R).Silent (Dropped s fs) := by
  refine Calculus.Silent.of_local fun l h => ?_
  obtain ⟨calls, hu, ha⟩ := h
  exact ⟨_, silent_at hA hR s calls, ha, fun l ha => ⟨calls, hu, ha⟩⟩

/-- A log still shows what a tick came to after a failure was reported to the sink. -/
theorem silent_shows (r : Except Halt TickResult) : (working A R).Silent fun l => l.Shows onlySubmodels s r := by
  refine Calculus.Silent.of_local fun l h => ?_
  obtain ⟨calls, entry, hr, ha⟩ := h
  exact ⟨_, silent_at hA hR entry calls, ha, fun l ha => ⟨calls, entry, hr, ha⟩⟩

/-- What is known after fetching is still known then. -/
theorem silent_afterFetching (x : Option Fetched) (fs : List Failure) :
    (working A R).Silent (afterFetching onlySubmodels s x fs) := by
  cases x with
  | none => exact silent_dropped hA hR fs
  | some f =>
    refine Calculus.Silent.of_local fun l h => ?_
    obtain ⟨hfs, graph, calls, hf, hcalls, ha⟩ := h
    exact ⟨_, silent_at hA hR s calls, ha, fun l ha => ⟨hfs, graph, calls, hf, hcalls, ha⟩⟩

/-- So is what is known after diffing. -/
theorem silent_afterDiffing (x : Option Diffed) (fs : List Failure) :
    (working A R).Silent (afterDiffing onlySubmodels s x fs) := by
  cases x with
  | none => exact silent_dropped hA hR fs
  | some d =>
    refine Calculus.Silent.of_local fun l h => ?_
    obtain ⟨hfs, calls, hd, ha⟩ := h
    exact ⟨_, silent_at hA hR s calls, ha, fun l ha => ⟨hfs, calls, hd, ha⟩⟩

/-- So is what is known after updating. -/
theorem silent_afterUpdating (x : Option Diffed) (fs : List Failure) :
    (working A R).Silent (afterUpdating onlySubmodels s x fs) := by
  cases x with
  | none => exact silent_dropped hA hR fs
  | some d =>
    refine Calculus.Silent.of_local fun l h => ?_
    obtain ⟨hfs, calls, time, hd, ha⟩ := h
    exact ⟨_, silent_at hA hR _ _, ha, fun l ha => ⟨hfs, calls, time, hd, ha⟩⟩

omit hA hR in
/-- Restricting makes no call, and hands on the submodels of what was fetched. -/
theorem meets_restricting {x : Option Fetched} {fs : List Failure} (h : afterFetching false s x fs l) :
    Timed.Meets (working A R) ((restricting [.submodel]).apply x) l
      (Staged (afterFetching true s) (afterStop onlySubmodels s) (restricting [.submodel]).name fs none)
      fun e l => l.Shows onlySubmodels s (.error e) := by
  refine meets_pure (Q := Staged _ _ _ _ _) ?_
  cases x with
  | none => exact h
  | some f =>
    obtain ⟨hfs, graph, calls, rfl, hcalls, ha⟩ := h
    exact ⟨hfs, graph, calls, rfl, hcalls, ha⟩

/-- Diffing looks the entry up, and compares what is there with what was handed to it. -/
theorem meets_diffing {x : Option Fetched} {fs : List Failure} (h : afterFetching onlySubmodels s x fs l) :
    Timed.Meets (working A R) (diffing.apply x) l
      (Staged (afterDiffing onlySubmodels s) (afterStop onlySubmodels s) diffing.name fs none)
      fun e l => l.Shows onlySubmodels s (.error e) := by
  cases x with
  | none => exact meets_pure (Q := Staged _ _ _ _ _) h
  | some f =>
    obtain ⟨rfl, graph, calls, rfl, hcalls, ha⟩ := h
    -- nobody else has changed the entry since the tick began
    have hentry : (working A R).ask l (.service s.url) (fun a l => a = some s ∧ l.At s.url s calls)
        (fun l => l.Shows onlySubmodels s (.error .expired)) := by
      refine ha.ask hR (hA _ rfl) ⟨rfl, rfl⟩ (fun a v v' hr hv hat => ⟨?_, hat⟩) fun l he => he.halted hcalls.uncommitted _ _
      cases hv with
      | world hv =>
        cases hv
        exact hR _ _ hr s ha.entry
    refine (meets_request hentry).seq ?_
    rintro _ l ⟨rfl, ha⟩
    dsimp only
    split
    · rename_i e hd
      obtain ⟨⟨r, rfl⟩, hrepeated⟩ := Graph.diff_eq_error hd
      refine meets_pure ?_
      rw [failed_of_fatal rfl]
      refine ⟨calls, s, .repeating hcalls hd (hrepeated.imp_right ?_), ha⟩
      rintro ⟨g, hg, hn⟩
      obtain ⟨x, hx, rfl⟩ := Option.map_eq_some_iff.1 hg
      exact ⟨x, hx, hn⟩
    · rename_i c hd
      have hnew : (Program.request (.snapshot (keptGraph onlySubmodels graph))).Meets (working A R) l fun new l =>
          afterDiffing onlySubmodels s (some ⟨s.url, s.snapshot, new, c⟩) [] l := by
        refine ha.ask (r := .snapshot _) hR (hA _ rfl) ⟨rfl, rfl⟩ (fun new v v' _ hv hat => ?_) fun _ _ => trivial
        cases hv with
        | world hv =>
          cases hv
          exact ⟨rfl, calls, .intro hcalls _ hd, hat⟩
      exact (meets_lift hnew).seq fun _ _ hn => meets_pure (Q := Staged _ _ _ _ _) hn

/-- Updating swaps the snapshot that was compared, which is still there, for the new one. -/
theorem meets_updating {x : Option Diffed} {fs : List Failure} (h : afterDiffing onlySubmodels s x fs l) :
    Timed.Meets (working A R) (updating.apply x) l
      (Staged (afterUpdating onlySubmodels s) (afterStop onlySubmodels s) updating.name fs none)
      fun e l => l.Shows onlySubmodels s (.error e) := by
  cases x with
  | none => exact meets_pure (Q := Staged _ _ _ _ _) h
  | some d =>
    obtain ⟨rfl, calls, hd, ha⟩ := h
    obtain ⟨hurl, hold⟩ : d.url = s.url ∧ d.old = s.snapshot := by
      cases hd with
      | intro => exact ⟨rfl, rfl⟩
    -- the entry still has the snapshot that the graph was compared with, so the exchange succeeds
    have hswap : (working A R).ask l (.swap d.url d.old d.new)
        (fun a l => (∃ old, a = .ok old) ∧ afterUpdating onlySubmodels s (some d) [] l)
        (fun l => l.Shows onlySubmodels s (.error .expired)) := by
      rw [hurl, hold]
      refine ⟨hA _ rfl, rfl, fun v hr => ⟨fun a v' hv => ?_, ?_⟩⟩
      · have hs : v.registry.get? s.url = some s := hR _ _ hr s ha.entry
        cases hv with
        | world hv =>
          rcases World.swap_cases (Option.some.inj hv) with ⟨s', hs', _, rfl, rfl⟩ | ⟨_, hne, _, _⟩
          · obtain rfl : s = s' := Option.some.inj (hs.symm.trans hs')
            refine ⟨⟨_, rfl⟩, rfl, calls, v.now, hd, ?_, by rw [l.calls_add, ha.calls]; rfl⟩
            simp [Log.add, Registry.get?_replace, hs]
          · exact absurd rfl (hne s hs)
      · have hlate := ha.add hR (m := .expired (.swap s.url s.snapshot d.new)) hr rfl
        exact hlate.halted (uncommitted_concat hd.uncommitted rfl) _ _
    refine (meets_request hswap).seq ?_
    rintro _ l ⟨⟨old, rfl⟩, hu⟩
    exact meets_pure (Q := Staged _ _ _ _ _) hu

/-- Emitting hands the changes over, and a refusal leaves the swap as it is. -/
theorem meets_emitting {x : Option Diffed} {fs : List Failure} (h : afterUpdating onlySubmodels s x fs l) :
    Timed.Meets (working A R) (emitting.apply x) l
      (Staged (afterEmitting onlySubmodels s) (afterStop onlySubmodels s) emitting.name fs none)
      fun e l => l.Shows onlySubmodels s (.error e) := by
  cases x with
  | none =>
    obtain ⟨calls, hu, ha⟩ := h
    refine meets_pure (Q := Staged _ _ _ _ _) ⟨calls, s, ?_, ha⟩
    cases hu with
    | unresolved h => exact .unfetched (.unresolved h)
    | refused h e => exact .unfetched (.refused h e)
  | some d =>
    obtain ⟨rfl, calls, time, ⟨hcalls, id, hd⟩, ha⟩ := h
    rename_i graph c
    -- the new snapshot is stored whatever comes of the changes now
    have hstored : ∀ {emission r} {l : Log}, Emission s.url c emission r →
        l.At s.url { s with snapshot := some ⟨id, keptGraph onlySubmodels graph⟩, lastSynced := some time }
          (calls ++ .answered (.swap s.url s.snapshot ⟨id, keptGraph onlySubmodels graph⟩) (.ok s.snapshot) :: emission) →
        l.Shows onlySubmodels s r := fun he ha => ⟨_, _, .stored hcalls hd he, ha⟩
    show Timed.Meets _ (if c.isEmpty then _ else _) _ _ _
    split
    · rename_i hc
      exact meets_pure (Q := Staged _ _ _ _ _) (hstored (.nothing hc) ha)
    · rename_i hc
      have hc : c.isEmpty = false := Bool.eq_false_iff.2 hc
      have happly : (working A R).ask l (.apply s.url c)
          (fun a l => l.Shows onlySubmodels s (match a with
            | .ok () => .ok (.success (some c))
            | .error e => .ok (.recoverable (some (some c)) [⟨.warning, some "emitting", (SyncError.apply e).message⟩])))
          (fun l => l.Shows onlySubmodels s (.error .expired)) := by
        refine ha.call hR (hA _ rfl) ⟨rfl, rfl⟩ ?_ ?_ ?_
        · intro v a v' hv
          cases hv with
          | applied | refused => rfl
          | world hv => nomatch hv
        · rintro (e | ⟨⟩) l ha
          · rw [List.append_assoc] at ha
            exact hstored (.refused hc e) ha
          · rw [List.append_assoc] at ha
            exact hstored (.applied hc) ha
        · intro l ha
          rw [List.append_assoc] at ha
          exact hstored (.expired hc) ha
      refine (meets_request happly).seq ?_
      rintro (e | ⟨⟩) l ha
      · exact meets_pure (Q := Staged _ _ _ _ _) ha
      · exact meets_pure (Q := Staged _ _ _ _ _) ha

/-! ## The pipeline -/

/-- The steps of a tick, run on a service, end as the account says. -/
theorem meets_pipeline (h : l.At s.url s []) :
    Timed.Meets (working A R) ((pipeline onlySubmodels).execute s) l (fun r l => l.Shows onlySubmodels s (.ok r))
      fun e l => l.Shows onlySubmodels s (.error e) := by
  have hstop : ∀ fs, (working A R).Silent (afterStop onlySubmodels s fs) := fun fs => silent_shows hA hR _
  have hstart : Timed.Meets (working A R) (Chain.nil.run (sink pipelineName) s) l
      (Ended (fun x fs l => x = s ∧ fs = [] ∧ l.At s.url s []) (afterStop onlySubmodels s))
      fun e l => l.Shows onlySubmodels s (.error e) := meets_run_nil _ ⟨rfl, rfl, h⟩
  have hfetch : Timed.Meets (working A R) ((Chain.nil.snoc fetching (pure none)).run (sink pipelineName) s) l
      (Ended (afterFetching false s) (afterStop onlySubmodels s)) fun e l => l.Shows onlySubmodels s (.error e) := by
    refine meets_run_snoc (silent_afterFetching hA hR) hstop hstart fun x fs l hi => ?_
    obtain ⟨rfl, rfl, ha⟩ := hi
    exact meets_fetching hA hR ha
  have hpre : Timed.Meets (working A R) ((fetchPipeline onlySubmodels).chain.run (sink pipelineName) s) l
      (Ended (afterFetching onlySubmodels s) (afterStop onlySubmodels s)) fun e l => l.Shows onlySubmodels s (.error e) := by
    cases onlySubmodels with
    | false => exact hfetch
    | true => exact meets_run_snoc (silent_afterFetching hA hR) hstop hfetch fun x fs l hi => meets_restricting hi
  have hdiff := meets_run_snoc (silent_afterDiffing hA hR) hstop hpre
    fun x fs l hi => meets_diffing hA hR hi
  have hupdate := meets_run_snoc (silent_afterUpdating hA hR) hstop hdiff
    fun x fs l hi => meets_updating hA hR hi
  have hemit := meets_run_snoc (J := afterEmitting onlySubmodels s)
    (fun c fs => silent_shows hA hR _) hstop hupdate fun x fs l hi => meets_emitting hA hR hi
  have hsink : (pipeline onlySubmodels).sink (pipeline onlySubmodels).name = sink pipelineName := by
    cases onlySubmodels <;> rfl
  unfold Pipeline.execute
  rw [hsink]
  refine Timed.Meets.seq hemit ?_
  rintro ⟨_ | c, recorded⟩ l hr
  · exact meets_pure (Q := fun r (l : Log) => l.Shows onlySubmodels s (.ok r)) hr
  · exact meets_pure (Q := fun r (l : Log) => l.Shows onlySubmodels s (.ok r)) hr

end Tick

namespace Synchronizer

variable {A : Request → Prop} {R : World → World → Prop} {s : Service} {l : Log}

/-! ## Ticks -/

/-- What a tick does with the guard of its service, before it gives the guard back. -/
def attempt (y : Synchronizer) (g : Guard) : Program (Except String TickResult) := do
  match ← Program.request (.service g.url) with
  | none => return .ok (Tick.notRegistered g.url)
  | some service => y.runPipeline service

/-- A tick is what it attempts under its guard, which it gives back whatever came of it. -/
theorem runTick_eq (y : Synchronizer) (g : Guard) : y.runTick g = (do
    let r ← y.attempt g
    Program.release g
    return r) := by
  refine congrArg (Program.ask (.service g.url)) (funext fun a => ?_)
  cases a <;> rfl

/-- What is left of a call for a tick once the tick has come to something. -/
def finish (g : Guard) (r : Except String TickResult) : Program Report := do
  Program.release g
  return match r with
    | .ok r => .asked (.completed r)
    | .error reason => .crashed reason

/-- A call for a tick finds someone else at work, or makes the attempt with the guard. -/
theorem program_synchronize (s : Scheduler) (url : AccessUrl) :
    (Operation.synchronize url).program s = .ask (.tryMark url) fun
      | none => .done (.asked .skipped)
      | some g => s.synchronizer.attempt g >>= finish g := by
  refine congrArg (Program.ask (.tryMark url)) (funext fun a => ?_)
  cases a with
  | none => rfl
  | some g =>
    show (s.synchronizer.runTick g >>= _) >>= _ = _
    rw [runTick_eq, bind_assoc, bind_assoc]
    refine bind_congr fun r => ?_
    cases r <;> rfl

/-- What a tick tells its caller of how its pipeline ended. -/
def told (y : Synchronizer) : Except Halt TickResult → Except String TickResult
  | .ok r => .ok r
  | .error .expired => .ok (Tick.abandoned y.timeout)
  | .error (.crashed reason) => .error reason

/-- The pipeline of a tick, under its timeout, comes to what the log of its calls shows. -/
theorem meets_runPipeline (y : Synchronizer) (hA : ∀ r, r.steady = true → A r) (hR : KeepsEntry R s.url)
    (h : l.At s.url s []) :
    (y.runPipeline s).Meets (working A R) l fun x (l : Log) => ∃ r, x = y.told r ∧ l.Shows y.onlySubmodels s r := by
  have hnow : (Program.request .now).Meets (working A R) l fun _ l => l.At s.url s [] :=
    h.ask (r := .now) hR (hA _ rfl) ⟨rfl, rfl⟩ (fun _ _ _ _ _ ha => ha) fun _ _ => trivial
  refine hnow.seq fun start l ha => ?_
  refine (Tick.meets_pipeline hA hR ha (some (start + y.timeout))).seq ?_
  rintro ((_ | reason) | r) l hr
  · exact ⟨_, rfl, hr⟩
  · exact ⟨_, rfl, hr⟩
  · exact ⟨_, rfl, hr⟩

/-- A tick of a registered service ends as the account says. -/
theorem meets_attempt (y : Synchronizer) {g : Guard} (hg : s.url = g.url) (hA : ∀ r, r.steady = true → A r)
    (hR : KeepsEntry R g.url) (h : l.At g.url s []) :
    (y.attempt g).Meets (working A R) l fun x (l : Log) => ∃ r, x = y.told r ∧ l.Shows y.onlySubmodels s r := by
  rw [← hg] at h hR
  have hentry : (Program.request (.service s.url)).Meets (working A R) l fun a l => a = some s ∧ l.At s.url s [] := by
    refine h.ask (r := .service _) hR (hA _ rfl) ⟨rfl, rfl⟩ (fun a v v' hr hv hat => ⟨?_, hat⟩) fun _ _ => trivial
    cases hv with
    | world hv =>
      cases hv
      exact hR _ _ hr s h.entry
  unfold attempt
  rw [← hg]
  refine hentry.seq ?_
  rintro _ l ⟨rfl, ha⟩
  exact meets_runPipeline y hA hR ha

/-- A tick of a registered service whose entry nobody else changes is never stuck, and when it is done, without a crash of the client
and before its deadline, it comes to what the account says: those are its calls, that is the entry, and whatever it did besides the
calls that write left the registry and the catalog as they were. -/
theorem runTick_accounts (y : Synchronizer) {g : Guard} {R : World → World → Prop} (hR : KeepsEntry R g.url) {w : World}
    (hk : w.registry.Keyed) {s : Service} (hs : w.registry.get? g.url = some s) :
    (∀ ds v q, (y.runTick g).Works R w ds v q → (∃ x, q = .done x) ∨ ∃ m v' q', Program.Step v q m v' q') ∧
    ∀ ds w' result, (y.runTick g).Works R w ds w' (.done (.ok result)) → result ≠ Tick.abandoned y.timeout →
      ∃ calls entry, Tick.Account y.onlySubmodels s calls entry (.ok result) ∧ Deed.calls ds = calls ∧
        w'.registry.get? g.url = some entry ∧ ∀ d ∈ ds, d.Idle ∨ d.move ∈ calls ∧ d.move.writes = true := by
  have hstart : Log.At ⟨[], w⟩ g.url s [] := ⟨hs, rfl⟩
  have hmeets : (y.runTick g).Meets (working (fun _ => True) R) ⟨[], w⟩ fun x l =>
      ∃ r, x = y.told r ∧ l.Shows y.onlySubmodels s r := by
    rw [runTick_eq]
    refine (y.meets_attempt (hk _ _ hs) (fun _ _ => trivial) hR hstart).seq ?_
    rintro x l ⟨r, rfl, calls, entry, hr, ha⟩
    rw [hk _ _ hs] at ha
    refine ha.ask (r := .unmark g) hR trivial ⟨rfl, rfl⟩ (fun _ _ _ _ _ ha => ?_) fun _ _ => trivial
    refine ha.ask (r := .wake) hR trivial ⟨rfl, rfl⟩ (fun _ _ _ _ _ ha => ?_) fun _ _ => trivial
    exact ⟨r, rfl, calls, entry, hr, (hk _ _ hs).symm ▸ ha⟩
  refine ⟨fun ds v q hw => (hmeets.works hw).1.progress v, fun ds w' result hw hne => ?_⟩
  obtain ⟨r, hr, calls, entry, ha, hat⟩ := (hmeets.works hw).1
  obtain rfl : r = .ok result := by
    rcases r with (_ | reason) | r
    · exact absurd (Except.ok.inj hr) hne
    · nomatch hr
    · exact (congrArg _ (Except.ok.inj hr)).symm
  refine ⟨calls, entry, ha, hat.calls, (hk _ _ hs) ▸ hat.entry, fun d hd => ?_⟩
  cases hwrites : d.move.writes with
  | false => exact Or.inl (hw.idle d hd hwrites)
  | true =>
    exact Or.inr ⟨hat.calls ▸ Deed.mem_calls hd (Move.isCall_of_writes hwrites), rfl⟩

/-- A tick with a secret from the store drops the shell, stores the submodel in the place of another, and brings it to the catalog. -/
theorem runTick_accounts_replaced_submodel :
    let url : AccessUrl := ⟨"http://host"⟩
    let y : Synchronizer := ⟨true, 1000⟩
    let gone : Snapshot := ⟨0, ⟨[.root .submodel "gone" .null]⟩⟩
    let s : Service := { (Service.fresh url).withAuth (.vault "key") with snapshot := some gone, lastSynced := some 0 }
    let w : World := { World.initial (.ofNat 1) with
      registry := ⟨[(url, s)]⟩, inFlight := [url], guards := [⟨0, url⟩], guardCount := 1, snapshotCount := 1 }
    let R : World → World → Prop := fun v v' => v'.registry.get? url = v.registry.get? url
    let fetched : Graph := ⟨[.root .shell "aas" .null, .root .submodel "sm" .null]⟩
    let c : ResourceChanges := ⟨[⟨.root .submodel "sm", .null⟩], [.root .submodel "gone"]⟩
    let kept : Snapshot := ⟨1, ⟨[.root .submodel "sm" .null]⟩⟩
    let calls : List Move := [.answered (.resolve "key") (some "secret"),
      .answered (.fetch url [("x-api-key", "secret")]) (.ok (.ok fetched)), .answered (.swap url (some gone) kept) (.ok (some gone)),
      .answered (.apply url c) (.ok ())]
    let entry : Service := { s with snapshot := some kept, lastSynced := some 7 }
    let result : TickResult := .success (some c)
    KeepsEntry R url ∧ w.registry.Keyed ∧ w.registry.get? url = some s ∧ result ≠ Tick.abandoned y.timeout ∧
    ∃ ds w', (y.runTick ⟨0, url⟩).Works R w ds w' (.done (.ok result)) ∧ Tick.Account y.onlySubmodels s calls entry (.ok result) ∧
      Deed.calls ds = calls ∧ w'.registry.get? url = some entry ∧ ∀ d ∈ ds, d.Idle ∨ d.move ∈ calls ∧ d.move.writes = true := by
  intro url y gone s w R fetched c kept calls entry result
  have hR : KeepsEntry R url := fun v v' h s hs => h.trans hs
  have hk : w.registry.Keyed := Registry.keyed_empty.put s
  have hs : w.registry.get? url = some s := by rfl
  have hne : result ≠ Tick.abandoned y.timeout := nofun
  obtain ⟨ds, w', q, hw, hx⟩ := Program.exists_works (R := R) (p := y.runTick ⟨0, url⟩)
    (c := [(0, .go), (0, .go), (0, .resolved (some "secret")), (7, .fetched (.ok (.ok fetched))), (0, .go), (0, .go), (0, .go),
      (5, .go), (0, .go), (0, .go)])
    (b := (calls, some entry, some (.ok result))) (fun ds w' x => (Deed.calls ds, w'.registry.get? url, x))
    (by cbv : (Program.work? w _ _).map _ = _) (fun _ _ => rfl)
  obtain ⟨hcalls, hentry, hq⟩ : _ ∧ _ ∧ _ := by simpa only [Prod.mk.injEq] using hx
  obtain rfl := Program.eq_done_of_value? hq
  obtain ⟨calls', entry', ha, rfl, he, hidle⟩ := (y.runTick_accounts hR hk hs).2 ds w' result hw hne
  obtain rfl : entry = entry' := Option.some.inj (hentry.symm.trans he)
  rw [hcalls] at ha hidle
  exact ⟨hR, hk, hs, hne, ds, w', hw, ha, hcalls, hentry, hidle⟩

end Synchronizer

end CatalogSync.Engine
