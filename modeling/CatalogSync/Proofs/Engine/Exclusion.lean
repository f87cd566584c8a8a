import CatalogSync.Proofs.Engine.Custody
import CatalogSync.Proofs.Engine.Errands
import CatalogSync.Proofs.Engine.Replay

/-!
# Exclusion

Whatever is called, however tasks interleave, and wherever deadlines and crashes strike, a URL has at most one live guard, and who
works on the URL holds it (`State.Exclusive`). Whoever finds the URL marked and skips a tick does nothing else for it
(`State.SkipsIdly`). `State.Run.exclusive` says both of every state that a run leads to.
-/

namespace CatalogSync.Engine

open Regime

/-! ## Exclusive states -/

/-- The regime in which anything may happen to sites. -/
def lawless : Regime where
  admits _ := True
  lossy := True
  sound _ _ := True
  owed _ _ _ := True
  admits_discovered _ _ _ := trivial
  sound_register _ _ _ := trivial
  owed_register _ _ _ := trivial
  owed_of_diff _ _ _ _ := trivial
  owed_of_remove _ _ := trivial
  sound_of_isEmpty _ _ := trivial
  sound_of_apply _ := trivial
  sound_of_lossy _ := fun _ => trivial

theorem lawless_allows (e : Event) : lawless.AllowsEvent e :=
  Regime.allowsEvent_of_lossy trivial fun _ op _ => by cases op <;> trivial

/-- That a task holds the guard of a URL. -/
def Task.Holds (t : Task) (url : AccessUrl) : Prop := ∃ g ∈ t.guards, g.url = url

/-- That a task waits for the client to fetch from a URL, or for the catalog to apply changes for it. -/
def Task.WorksOn (t : Task) (url : AccessUrl) : Prop :=
  (∃ headers, t.program.Asks (.fetch url headers)) ∨ ∃ changes, t.program.Asks (.apply url changes)

/-- A state in which nobody is in another's way. -/
structure State.Exclusive (x : State) : Prop where
  /-- The marks are the URLs of the live guards. -/
  marks : x.world.inFlight = x.world.guards.map Guard.url
  nodup : x.world.inFlight.Nodup
  /-- The live guards are those that tasks hold and those handed to jobs whose tasks have not begun, each of them once. -/
  owners : (x.tasks.flatMap Task.guards ++ x.world.jobGuards).Perm x.world.guards
  single : ∀ t ∈ x.tasks, t.guards.length ≤ 1
  /-- No two tasks hold guards of one URL. -/
  apart : x.tasks.Pairwise fun t u => ∀ url, t.Holds url → ¬u.Holds url
  /-- Who works on a URL holds its guard. -/
  working : ∀ t ∈ x.tasks, ∀ url, t.WorksOn url → t.Holds url
  /-- No two tasks work on one URL. -/
  alone : x.tasks.Pairwise fun t u => ∀ url, t.WorksOn url → ¬u.WorksOn url
  /-- A task that has ended holds no guard. -/
  released : ∀ t ∈ x.ended, t.guards = []

/-- The URL whose guard whoever makes a request has to hold. -/
def Request.guarded? : Request → Option AccessUrl
  | .service url | .remove url | .swap url _ _ | .fetch url _ | .apply url _ => some url
  | _ => none

/-- Whoever makes a request for which a guard is needed holds the guard. -/
theorem Regime.Reply.guarded {P : Regime} {held : Held} {r : Request} {K : r.Answer → Held → Prop} (h : P.Reply held r K)
    {url : AccessUrl} (hr : r.guarded? = some url) : ∃ g σ, held = some (g, σ) ∧ g.url = url := by
  cases r with
  | service | remove | swap | apply =>
    cases hr
    obtain ⟨g, σ, he, hu, _⟩ := h
    exact ⟨g, σ, he, hu⟩
  | fetch =>
    cases hr
    exact h.1
  | _ => nomatch hr

/-- So does a task that is about to make one. -/
theorem Task.Kept.holds_of_asks {P : Regime} {w : World} {t : Task} (h : t.Kept P w) {r : Request} (ha : t.program.Asks r)
    {url : AccessUrl} (hr : r.guarded? = some url) : t.Holds url := by
  obtain ⟨held, hg, hk, hc⟩ := h
  have hown : ∃ g σ, Held.now w held = some (g, σ) ∧ g.url = url := by
    cases hp : t.program <;> rw [hp] at ha hk <;> cases ha
    · exact (hk _ hc).2.1.guarded hr
    · exact (hk _ hc).2.1.guarded hr
  obtain ⟨g, σ, he, hu⟩ := hown
  have hmem : g ∈ Held.guards (Held.now w held) := by
    rw [he]
    exact List.mem_singleton_self g
  exact ⟨g, by rwa [Held.guards_now, hg] at hmem, hu⟩

/-- A program that is about to fetch or to apply holds the guard. -/
theorem Task.Kept.holds {P : Regime} {w : World} {t : Task} (h : t.Kept P w) {url : AccessUrl} (hw : t.WorksOn url) :
    t.Holds url := by
  rcases hw with ⟨headers, ha⟩ | ⟨changes, ha⟩
  · exact h.holds_of_asks ha rfl
  · exact h.holds_of_asks ha rfl

/-- Guards in custody are in the hands of one task each, so nobody is in another's way. -/
theorem State.exclusive_of_kept {P : Regime} {x : State} (h : x.Kept P) : x.Exclusive := by
  have hurls : ((x.tasks.flatMap Task.guards ++ x.world.jobGuards).map Guard.url).Nodup :=
    (h.owners.map Guard.url).nodup_iff.2 (h.sane.marks ▸ h.sane.nodup)
  have hapart : x.tasks.Pairwise fun t u => ∀ url, t.Holds url → ¬u.Holds url := by
    rw [List.map_append, List.map_flatMap] at hurls
    have hp := (List.nodup_flatMap.1 (List.nodup_append.1 hurls).1).2
    refine hp.imp ?_
    rintro t u hd url ⟨g, hg, rfl⟩ ⟨g', hg', he⟩
    exact hd (List.mem_map_of_mem hg) (he ▸ List.mem_map_of_mem hg')
  refine ⟨h.sane.marks, h.sane.nodup, h.owners, ?_, hapart, fun t ht url hw => (h.tasks t ht).holds hw, ?_, h.ended⟩
  · intro t ht
    obtain ⟨held, hg, _, _⟩ := h.tasks t ht
    rw [← hg]
    rcases held with _ | ⟨g, σ⟩
    · exact Nat.zero_le 1
    · exact Nat.le_refl 1
  · refine hapart.imp_of_mem fun ht hu hd url hw hw' => ?_
    exact hd url ((h.tasks _ ht).holds hw) ((h.tasks _ hu).holds hw')

/-! ## Ticks that are skipped -/

/-- How a round asks for the ticks of services: the moves that start ticks, the moves that wait for them, and the outcomes. For a
service that is skipped there is one move, which finds its URL marked. -/
inductive Ticked : List Service → List Move → List Move → List (AccessUrl × TickOutcome) → Prop where
  | nil : Ticked [] [] [] []
  | skipped (s : Service) {ss : List Service} {starts joins : List Move} {os : List (AccessUrl × TickOutcome)}
    (h : Ticked ss starts joins os) : Ticked (s :: ss) (.answered (.tryMark s.url) none :: starts) joins ((s.url, .skipped) :: os)
  | completed (s : Service) (g : Guard) (task : Nat) (a : Except String TickResult) (r : TickResult) {ss : List Service}
    {starts joins : List Move} {os : List (AccessUrl × TickOutcome)} (h : Ticked ss starts joins os) :
    Ticked (s :: ss) (.answered (.tryMark s.url) (some g) :: .answered (.spawn (.tick g)) task :: starts)
      (.answered (.join task) a :: joins) ((s.url, .completed r) :: os)

/-- The errands of a round: those ticks that are started are waited for, and the others are skipped. -/
theorem ticked_of_errands {errands : List Errand} {services : List Service} (h : errands.map Errand.url = services.map Service.url) :
    Ticked services (errands.flatMap Errand.starts) (errands.flatMap Errand.joins) (errands.map fun e => (e.url, e.outcome)) := by
  induction errands generalizing services with
  | nil =>
    obtain rfl := List.map_eq_nil_iff.1 h.symm
    exact .nil
  | cons e rest ih =>
    obtain ⟨s, services, rfl, hurl, hrest⟩ := List.map_eq_cons_iff.1 h.symm
    have hticked := ih hrest.symm
    cases e with
    | skipped url =>
      obtain rfl : s.url = url := hurl
      exact .skipped s hticked
    | ticked url g n told =>
      obtain rfl : s.url = url := hurl
      cases told with
      | ok result => exact .completed s g n _ result hticked
      | error reason => exact .completed s g n _ (Scheduler.crashed reason) hticked

/-- A state in which whoever skipped a tick did nothing else for it. -/
structure State.SkipsIdly (x : State) : Prop where
  /-- A tick that was skipped found its URL marked, and that was all. -/
  asked : ∀ t ∈ x.ended, ∀ url, t.origin = .operation (.synchronize url) → t.program = .done (.asked .skipped) →
    t.moves = [.answered (.tryMark url) none]
  /-- So did a tick that was skipped after the registration of its service. -/
  scheduled : ∀ t ∈ x.ended, ∀ service, t.origin = .operation (.schedule service) → t.program = .done (.scheduled (some .skipped)) →
    t.moves = [.answered (.register service) true, .answered (.tryMark service.url) none]
  /-- And so did each tick that was skipped in a round, which asks for ticks once discovery is over. -/
  rounded : ∀ t ∈ x.ended, ∀ os, t.program = .done (.rounded os) → ∃ discovery services starts joins,
    t.moves = discovery ++ .answered .services services :: (starts ++ joins) ∧ Ticked services starts joins os

namespace Program.Trace

variable {ms : List Move}

/-- A tick that is skipped makes one move. -/
theorem of_synchronize {y : Synchronizer} {url : AccessUrl} (h : Trace (y.synchronize url) ms (.done (.ok .skipped))) :
    ms = [.answered (.tryMark url) none] := by
  obtain ⟨a, ms', rfl, hrest⟩ := of_ask h
  cases a with
  | none => rw [(of_done hrest).1]
  | some g =>
    obtain ⟨_, _, r, _, _, hr⟩ := bind (p := y.runTick g) hrest
    have he := (of_done hr).2
    cases r <;> nomatch he

/-- An operation that synchronizes and reports a skipped tick made one move. -/
theorem of_asked_skipped {s : Scheduler} {url : AccessUrl}
    (h : Trace ((Operation.synchronize url).program s) ms (.done (.asked .skipped))) : ms = [.answered (.tryMark url) none] := by
  obtain ⟨ms₁, ms₂, r, rfl, hs, hr⟩ := bind h
  cases r with
  | error reason => nomatch (of_done hr).2
  | ok outcome =>
    obtain ⟨rfl, he⟩ := of_done hr
    cases he
    rw [of_synchronize hs, List.append_nil]

/-- A registration with a tick finds the service registered already, or finds its URL marked, or waits for the tick that it
started. -/
theorem of_schedule {s : Scheduler} {service : Service} {report : Report}
    (h : Trace ((Operation.schedule service).program s) ms (.done report)) :
    (report = .scheduled none ∧ ms = [.answered (.register service) false]) ∨
    (report = .scheduled (some .skipped) ∧
      ms = [.answered (.register service) true, .answered (.tryMark service.url) none]) ∨
    ∃ g n a r, report = .scheduled (some (.completed r)) ∧
      ms = [.answered (.register service) true, .answered (.tryMark service.url) (some g), .answered (.spawn (.tick g)) n,
        .answered (.join n) a] := by
  obtain ⟨ms₁, ms₂, outcome, rfl, hs, hd⟩ := bind h
  obtain ⟨rfl, rfl⟩ := of_done hd
  obtain ⟨isNew, ms', rfl, hnew⟩ := of_ask hs
  cases isNew with
  | false =>
    obtain ⟨rfl, rfl⟩ := of_done hnew
    exact Or.inl ⟨rfl, rfl⟩
  | true =>
    obtain ⟨ms₃, ms₄, task, rfl, hstart, hrest⟩ := bind (p := Scheduler.startTick service.url) hnew
    obtain ⟨ms₅, ms₆, outcome', rfl, hfinish, hd'⟩ := bind hrest
    obtain ⟨rfl, rfl⟩ := of_done hd'
    rcases of_startTick hstart with ⟨rfl, rfl⟩ | ⟨g, n, rfl, rfl⟩
    · obtain ⟨rfl, rfl⟩ := of_finishTick_none hfinish
      exact Or.inr (Or.inl ⟨rfl, rfl⟩)
    · obtain ⟨a, r, rfl, rfl⟩ := of_finishTick_some hfinish
      exact Or.inr (Or.inr ⟨g, n, a, r, rfl, rfl⟩)

/-- One whose tick was skipped made two moves. -/
theorem of_scheduled_skipped {s : Scheduler} {service : Service}
    (h : Trace ((Operation.schedule service).program s) ms (.done (.scheduled (some .skipped)))) :
    ms = [.answered (.register service) true, .answered (.tryMark service.url) none] := by
  rcases of_schedule h with ⟨he, _⟩ | ⟨_, hms⟩ | ⟨_, _, _, _, he, _⟩
  · nomatch he
  · exact hms
  · nomatch he

/-- Whatever reports the outcomes of a round was one. -/
theorem runOnce_of_rounded {s : Scheduler} {origin : Origin} {os : List (AccessUrl × TickOutcome)}
    (h : Trace (origin.program s) ms (.done (.rounded os))) : Trace s.runOnce ms (.done os) := by
  have hround : Trace (do return Report.rounded (← s.runOnce)) ms (.done (Report.rounded os)) → Trace s.runOnce ms (.done os) := by
    intro h
    obtain ⟨_, ⟨⟩, hr⟩ := of_round (s := s) h
    exact hr
  rcases origin with op | g | _
  · cases op with
    | round => exact hround h
    | synchronize url =>
      obtain ⟨_, _, r, _, _, hd⟩ := bind h
      cases r <;> nomatch (of_done hd).2
    | register | unregister | discover | schedule =>
      obtain ⟨_, _, _, _, _, hd⟩ := bind h
      nomatch (of_done hd).2
  · obtain ⟨_, _, _, _, _, h₁⟩ := bind h
    obtain ⟨_, _, _, _, _, h₂⟩ := bind h₁
    obtain ⟨_, _, r, _, _, h₃⟩ := bind h₂
    obtain ⟨_, _, _, _, _, h₄⟩ := bind h₃
    cases r <;> nomatch (of_done h₄).2
  · exact hround h

theorem of_rounded {s : Scheduler} {origin : Origin} {os : List (AccessUrl × TickOutcome)}
    (h : Trace (origin.program s) ms (.done (.rounded os))) :
    ∃ discovery services starts joins, ms = discovery ++ .answered .services services :: (starts ++ joins) ∧
      Ticked services starts joins os := by
  obtain ⟨r, hms, rfl, _, hurls⟩ := of_runOnce (runOnce_of_rounded h)
  exact ⟨r.discovery, r.services, _, _, hms, ticked_of_errands hurls⟩

end Program.Trace

/-! ## Runs -/

/-- Tasks whose moves are recorded skip idly. -/
theorem State.Recorded.skipsIdly {s : Scheduler} {x : State} (h : x.Recorded s) : x.SkipsIdly where
  asked t ht url ho hr := by
    have htrace := h.trace ht hr fun _ => nofun
    rw [ho] at htrace
    exact Program.Trace.of_asked_skipped (s := s) htrace
  scheduled t ht service ho hr := by
    have htrace := h.trace ht hr fun _ => nofun
    rw [ho] at htrace
    exact Program.Trace.of_scheduled_skipped (s := s) htrace
  rounded t ht os hr := (h.trace ht hr fun _ => nofun).of_rounded

/-- Finding a URL marked leaves the world as it was. -/
theorem Program.Step.eq_of_not_marked {α : Type} {w w' : World} {p p' : Program α} {url : AccessUrl}
    (h : Program.Step w p (.answered (.tryMark url) none) w' p') : w' = w := by
  cases h with
  | ask ha | within ha =>
    cases ha with
    | world hw => exact (World.tryMark_eq_none (Option.some.inj hw)).2

/-- In every state of every run from a quiet state, each live guard is held by one task or handed to one job, the URLs in flight
are those of the live guards, nobody works on a URL without its guard, so no two on one URL, and whoever has ended holds none. A
tick that was skipped was one move, which found the URL marked and left the world as it was. -/
theorem State.Run.exclusive {s : Scheduler} {start x : State} {es : List Event} (h : State.Run s start es x) (hq : start.Quiet) :
    x.Exclusive ∧ x.SkipsIdly ∧
    ∀ id url y, State.Step s x (.moved id (.answered (.tryMark url) none)) y → y.world = x.world := by
  refine ⟨?_, (h.recorded hq.tasks hq.ended).skipsIdly, ?_⟩
  · have hkept : start.Kept lawless := hq.kept fun _ => trivial
    exact State.exclusive_of_kept (h.kept hkept fun e _ => lawless_allows e)
  · intro id url y hs
    generalize he : Event.moved id (.answered (.tryMark url) none) = e at hs
    cases hs with
    | move hp =>
      cases he
      exact hp.eq_of_not_marked
    | _ => nomatch he

/-- While a tick fetches, a second one is skipped and an unregistration waits. The first is cut short, and then the unregistration
holds the guard. -/
theorem State.Run.exclusive_cut_tick :
    let s : Scheduler := ⟨⟨false, 1000⟩, false, [], 1000⟩
    let start : State := ⟨World.initial (.ofNat 1), [], []⟩
    let url : AccessUrl := ⟨"http://host"⟩
    ∃ es x, State.Run s start es x ∧ start.Quiet ∧ x.world.inFlight = [url] ∧ x.tasks.map Task.guards = [[⟨1, url⟩]] ∧
      x.ended.map (fun t => (t.cut, t.guards)) = [(none, []), (none, []), (some "panic", [])] ∧ x.Exclusive ∧ x.SkipsIdly := by
  intro s start url
  let choices : List Choice := [.call (.register (.fresh url)), .move 0 .go, .finish 0, .call (.synchronize url), .move 0 .go,
    .move 0 .go, .move 0 .go, .call (.unregister url), .move 1 .go, .move 1 .go, .call (.synchronize url), .move 2 .go, .finish 2,
    .cut 0 "panic", .move 0 .go, .move 0 .go, .finish 0, .move 0 .go, .move 0 .go, .move 0 .go]
  obtain ⟨es, x, hrun, hx⟩ := State.exists_run (s := s) (x := start)
    (b := ([url], [[⟨1, url⟩]], [(none, []), (none, []), (some "panic", [])]))
    (fun _ x => (x.world.inFlight, x.tasks.map Task.guards, x.ended.map fun t => (t.cut, t.guards)))
    (by cbv : (State.replay s start choices).map _ = _)
  obtain ⟨hmarks, hguards, hended⟩ : _ ∧ _ ∧ _ := by simpa only [Prod.mk.injEq] using hx
  have hquiet : start.Quiet := State.quiet_initial _
  obtain ⟨hexclusive, hskips, _⟩ := hrun.exclusive hquiet
  exact ⟨es, x, hrun, hquiet, hmarks, hguards, hended, hexclusive, hskips⟩

end CatalogSync.Engine
