import CatalogSync.Proofs.Engine.Trace

/-!
# What rounds do

A round that comes to its end goes through the watched registries, whatever comes of each, lists the services, and goes on one errand for
each of them: it finds the URL marked, or starts a tick and waits for it (`Program.Trace.of_runOnce`).
-/

namespace CatalogSync.Engine

/-- What a round did for a service: it found the URL marked, or it started a tick with the guard of the URL, and was told what the tick
came to. -/
inductive Errand where
  | skipped (url : AccessUrl)
  | ticked (url : AccessUrl) (guard : Guard) (task : Nat) (told : Except String TickResult)

namespace Errand

def url : Errand → AccessUrl
  | skipped url | ticked url _ _ _ => url

/-- What the round says of the service. -/
def outcome : Errand → TickOutcome
  | skipped _ => .skipped
  | ticked _ _ _ (.ok result) => .completed result
  | ticked _ _ _ (.error reason) => .completed (Scheduler.crashed reason)

/-- The moves with which the round asks for the tick. -/
def starts : Errand → List Move
  | skipped url => [.answered (.tryMark url) none]
  | ticked url g n _ => [.answered (.tryMark url) (some g), .answered (.spawn (.tick g)) n]

/-- The moves with which the round waits for it. -/
def joins : Errand → List Move
  | skipped _ => []
  | ticked _ _ n told => [.answered (.join n) told]

/-- Whoever asks for a tick tries to mark the URL first, and skips the service if it is marked. -/
theorem exists_starts (e : Errand) : ∃ a rest, e.starts = .answered (.tryMark e.url) a :: rest ∧ (e.outcome = .skipped ↔ a = none) := by
  cases e with
  | skipped url => exact ⟨none, [], rfl, by simp [outcome]⟩
  | ticked url g n told => cases told <;> exact ⟨some g, _, rfl, by simp [outcome]⟩

end Errand

/-- What a round did: the moves of its discovery part, the services that it listed then, and what it did for each of them. -/
structure Round where
  discovery : List Move
  services : List Service
  errands : List Errand

namespace Round

def moves (r : Round) : List Move :=
  r.discovery ++ .answered .services r.services :: (r.errands.flatMap Errand.starts ++ r.errands.flatMap Errand.joins)

def outcomes (r : Round) : List (AccessUrl × TickOutcome) := r.errands.map fun e => (e.url, e.outcome)

/-- The outcomes are those of the errands, in their order. -/
theorem urls_outcomes (r : Round) : r.outcomes.map Prod.fst = r.errands.map Errand.url := by
  rw [outcomes, List.map_map]
  rfl

variable {r : Round} {e : Errand} {m : Move}

/-- What an errand does to start its tick the round does. -/
theorem starts_mem (he : e ∈ r.errands) (hm : m ∈ e.starts) : m ∈ r.moves :=
  List.mem_append_right _ (List.mem_cons_of_mem _ (List.mem_append_left _ (List.mem_flatMap.2 ⟨e, he, hm⟩)))

/-- What it does to wait for the tick the round does as well. -/
theorem joins_mem (he : e ∈ r.errands) (hm : m ∈ e.joins) : m ∈ r.moves :=
  List.mem_append_right _ (List.mem_cons_of_mem _ (List.mem_append_right _ (List.mem_flatMap.2 ⟨e, he, hm⟩)))

/-- Each service is tried after the services were listed, and skipped if it is found to be marked. -/
theorem exists_marked (he : e ∈ r.errands) : ∃ ms a ms', r.moves =
    (r.discovery ++ [.answered .services r.services] ++ ms) ++ .answered (.tryMark e.url) a :: ms' ∧ (e.outcome = .skipped ↔ a = none) := by
  obtain ⟨before, after, hsplit⟩ := List.append_of_mem he
  obtain ⟨a, rest, hstarts, hskipped⟩ := e.exists_starts
  refine ⟨before.flatMap Errand.starts, a, rest ++ after.flatMap Errand.starts ++ r.errands.flatMap Errand.joins, ?_, hskipped⟩
  have hflat : r.errands.flatMap Errand.starts =
      before.flatMap Errand.starts ++ .answered (.tryMark e.url) a :: (rest ++ after.flatMap Errand.starts) := by
    rw [hsplit, List.flatMap_append, List.flatMap_cons, hstarts, List.cons_append]
  rw [moves, hflat]
  simp only [List.append_assoc, List.cons_append, List.nil_append]

end Round

/-- The moves of discoveries through registries one after the other, whatever each of them came to. -/
inductive Discoveries : List Watched → List Move → Prop where
  | nil : Discoveries [] []
  | cons (w : Watched) (result : Except SyncError DiscoveryChanges) {ws : List Watched} {ms ms' : List Move}
    (h : (discover w.url w.auth).Trace ms (.done result)) (hrest : Discoveries ws ms') : Discoveries (w :: ws) (ms ++ ms')

namespace Program.Trace

variable {ms : List Move}

/-- Starting a tick finds the URL marked, or starts a task with the guard of the URL. -/
theorem of_startTick {url : AccessUrl} {task : Option Nat} (h : Trace (Scheduler.startTick url) ms (.done task)) :
    (task = none ∧ ms = [.answered (.tryMark url) none]) ∨
      ∃ g n, task = some n ∧ ms = [.answered (.tryMark url) (some g), .answered (.spawn (.tick g)) n] := by
  obtain ⟨a, ms', rfl, hmark⟩ := of_ask h
  cases a with
  | none =>
    obtain ⟨rfl, rfl⟩ := of_done hmark
    exact Or.inl ⟨rfl, rfl⟩
  | some g =>
    obtain ⟨n, ms'', rfl, hspawn⟩ := of_ask hmark
    obtain ⟨rfl, rfl⟩ := of_done hspawn
    exact Or.inr ⟨g, n, rfl, rfl⟩

/-- A tick that was not started is skipped. -/
theorem of_finishTick_none {outcome : TickOutcome} (h : Trace (Scheduler.finishTick none) ms (.done outcome)) :
    ms = [] ∧ outcome = .skipped := by
  obtain ⟨rfl, rfl⟩ := of_done h
  exact ⟨rfl, rfl⟩

/-- One that was started is waited for, and has completed. -/
theorem of_finishTick_some {n : Nat} {outcome : TickOutcome} (h : Trace (Scheduler.finishTick (some n)) ms (.done outcome)) :
    ∃ a r, ms = [.answered (.join n) a] ∧ outcome = .completed r := by
  obtain ⟨a, ms', rfl, hjoin⟩ := of_ask h
  cases a with
  | ok r =>
    obtain ⟨rfl, rfl⟩ := of_done hjoin
    exact ⟨_, r, rfl, rfl⟩
  | error reason =>
    obtain ⟨rfl, rfl⟩ := of_done hjoin
    exact ⟨_, _, rfl, rfl⟩

/-- The moves of a round's passes are those of each pass in turn. -/
theorem discoveries {watched : List Watched} (h : Trace (Scheduler.discoverAll watched) ms (.done ())) : Discoveries watched ms := by
  induction watched generalizing ms with
  | nil =>
    obtain ⟨rfl, _⟩ := h.of_done
    exact .nil
  | cons w rest ih =>
    obtain ⟨ms₁, ms₂, result, rfl, hw, hrest⟩ := bind (p := discover w.url w.auth) h
    exact .cons w result hw (ih hrest)

/-- A round goes on an errand for each service. -/
theorem errands {services : List Service} {tasks : List (AccessUrl × Option Nat)} {os : List (AccessUrl × TickOutcome)}
    {starts joins : List Move} (hs : Trace (Scheduler.startTicks services) starts (.done tasks))
    (hj : Trace (Scheduler.finishTicks tasks) joins (.done os)) :
    ∃ es : List Errand, es.map Errand.url = services.map Service.url ∧ starts = es.flatMap Errand.starts ∧
      joins = es.flatMap Errand.joins ∧ os = es.map fun e => (e.url, e.outcome) := by
  induction services generalizing starts joins tasks os with
  | nil =>
    obtain ⟨rfl, rfl⟩ := of_done hs
    obtain ⟨rfl, rfl⟩ := of_done hj
    exact ⟨[], rfl, rfl, rfl, rfl⟩
  | cons s rest ih =>
    obtain ⟨ms₁, ms₂, task, rfl, hstart, hstarts⟩ := bind hs
    obtain ⟨starts', ms₃, tasks', rfl, hstarts', hd⟩ := bind hstarts
    obtain ⟨rfl, rfl⟩ := of_done hd
    obtain ⟨js₁, js₂, outcome, rfl, hfinish, hjoins⟩ := bind hj
    obtain ⟨joins', js₃, os', rfl, hjoins', hd'⟩ := bind hjoins
    obtain ⟨rfl, rfl⟩ := of_done hd'
    obtain ⟨es, hurls, rfl, rfl, rfl⟩ := ih hstarts' hjoins'
    rw [List.append_nil, List.append_nil]
    rcases of_startTick hstart with ⟨rfl, rfl⟩ | ⟨g, n, rfl, rfl⟩
    · obtain ⟨rfl, rfl⟩ := of_finishTick_none hfinish
      exact ⟨.skipped s.url :: es, congrArg (s.url :: ·) hurls, rfl, rfl, rfl⟩
    · obtain ⟨told, ms', rfl, htold⟩ := of_ask hfinish
      refine ⟨.ticked s.url g n told :: es, congrArg (s.url :: ·) hurls, rfl, ?_⟩
      cases told with
      | ok result =>
        obtain ⟨rfl, rfl⟩ := of_done htold
        exact ⟨rfl, rfl⟩
      | error reason =>
        obtain ⟨rfl, rfl⟩ := of_done htold
        exact ⟨rfl, rfl⟩

/-- What a round did that came to its end. -/
theorem of_runOnce {s : Scheduler} {os : List (AccessUrl × TickOutcome)} (h : Trace s.runOnce ms (.done os)) :
    ∃ r : Round, ms = r.moves ∧ os = r.outcomes ∧ Discoveries (if s.discovery then s.watched else []) r.discovery ∧
      r.errands.map Errand.url = r.services.map Service.url := by
  have hticks : ∀ {ms discovery},
      Trace (do Scheduler.finishTicks (← Scheduler.startTicks (← Program.request .services))) ms (.done os) →
      Discoveries (if s.discovery then s.watched else []) discovery →
      ∃ r : Round, discovery ++ ms = r.moves ∧ os = r.outcomes ∧
        Discoveries (if s.discovery then s.watched else []) r.discovery ∧ r.errands.map Errand.url = r.services.map Service.url := by
    intro ms discovery h hd
    obtain ⟨services, ms', rfl, hservices⟩ := of_ask h
    obtain ⟨starts, joins, tasks, rfl, hs, hj⟩ := bind (p := Scheduler.startTicks services) hservices
    obtain ⟨es, hurls, rfl, rfl, rfl⟩ := errands hs hj
    exact ⟨⟨discovery, services, es⟩, rfl, rfl, hd, hurls⟩
  unfold Scheduler.runOnce at h
  split at h
  · rename_i hdiscovery
    obtain ⟨discovery, ms', _, rfl, hd, hrest⟩ := bind h
    exact hticks hrest (by rw [if_pos hdiscovery]; exact hd.discoveries)
  · rename_i hdiscovery
    exact hticks h (by rw [if_neg hdiscovery]; exact .nil)

/-- A round that ends reports its outcomes. -/
theorem of_round {s : Scheduler} {report : Report} (h : Trace ((Operation.round).program s) ms (.done report)) :
    ∃ os, report = .rounded os ∧ Trace s.runOnce ms (.done os) := by
  obtain ⟨ms₁, ms₂, os, rfl, hr, hd⟩ := bind h
  obtain ⟨rfl, rfl⟩ := of_done hd
  exact ⟨os, rfl, by rwa [List.append_nil]⟩

end Program.Trace

end CatalogSync.Engine
