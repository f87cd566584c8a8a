import CatalogSync.Proofs.Engine.Grading
import CatalogSync.Proofs.Engine.Inauguration
import CatalogSync.Proofs.Engine.Pruning
import CatalogSync.Proofs.Engine.Restitution
import CatalogSync.Proofs.Engine.Steadiness

/-!
# Rounds account for every service once

A round that is not cut short goes through the watched registries, whatever comes of each, lists the services that are registered then,
and has one outcome for each of them, in the order of their URLs. A service is skipped if its URL is marked when the round tries to mark
it; else the outcome is what the tick came to that the round started for it. Rounds end, and leave no mark behind
(`State.Run.rounds_account`).
-/

namespace CatalogSync.Engine

/-- Why the client crashed in a move, if it did. -/
def Move.crash? : Move → Option String
  | .answered (.fetch _ _) (.error reason) => some reason
  | _ => none

/-- That a task crashed for a reason: it was cut short for it, or the client crashed with it. -/
def Task.Crashed (t : Task) (reason : String) : Prop :=
  match t.cut with
  | some why => why = reason
  | none => reason ∈ t.moves.filterMap Move.crash?

section

variable {ms : List Move}

theorem crashes_concat {r : Request} (a : r.Answer) (hr : ∀ url headers, r ≠ .fetch url headers) :
    (ms ++ [Move.answered r a]).filterMap Move.crash? = ms.filterMap Move.crash? := by
  have hnone : (Move.answered r a).crash? = none := by
    unfold Move.crash?
    split
    · rename_i url headers reason hm
      cases hm
      exact absurd rfl (hr url headers)
    · rfl
  rw [List.filterMap_append, List.filterMap_cons_none hnone, List.filterMap_nil, List.append_nil]

/-- A tick whose client crashes ends early for it. -/
theorem turning_crashes : Tick.Turning (fun ms => ms.filterMap Move.crash? = []) (fun ms => ms.filterMap Move.crash? = [])
    fun e ms => ∀ reason, reason ∈ ms.filterMap Move.crash? ↔ e = .crashed reason := by
  have hlasting : Tick.Lasting (fun ms => ms.filterMap Move.crash? = [])
      fun e ms => ∀ reason, reason ∈ ms.filterMap Move.crash? ↔ e = .crashed reason := by
    refine ⟨fun h r a hr => (crashes_concat a hr).trans h, fun {ms} h r reason => ?_⟩
    have hnone : (Move.expired r).crash? = none := rfl
    rw [List.filterMap_append, h, List.filterMap_cons_none hnone]
    exact ⟨nofun, nofun⟩
  refine ⟨hlasting, hlasting, id, fun h url headers a => ?_, fun h url headers why reason => ?_⟩
  · rw [List.filterMap_append, h]
    rfl
  · rw [List.filterMap_append, h]
    exact List.mem_singleton.trans ⟨fun hr => hr ▸ rfl, fun hr => by cases hr; rfl⟩

/-- The task of a tick reports a crash exactly if the client crashed. -/
theorem Program.Trace.crashed_iff {s : Scheduler} {g : Guard} {report : Report} (h : Trace (s.work (.tick g)) ms (.done report))
    (reason : String) : report = .crashed reason ↔ reason ∈ ms.filterMap Move.crash? := by
  obtain ⟨ticket, _, rfl, hqueued⟩ := h.of_ask
  obtain ⟨_, ms', rfl, hgranted⟩ := hqueued.of_ask
  obtain ⟨ms₁, ms₂, result, rfl, hrun, hleave⟩ := bind (p := s.synchronizer.runTick g) hgranted
  obtain ⟨_, _, rfl, hdone⟩ := hleave.of_ask
  obtain ⟨rfl, hreport⟩ := hdone.of_done
  rw [Synchronizer.runTick_eq] at hrun
  obtain ⟨ms₃, ms₄, result', rfl, hattempt, hrelease⟩ := bind (p := s.synchronizer.attempt g) hrun
  rcases hrelease.of_release with ⟨rfl, hresult⟩ | ⟨_, _, hresult, _⟩
  · obtain rfl := Program.done.inj hresult
    obtain ⟨r, rfl, hok, herror⟩ := (s.synchronizer.turning_attempt g turning_crashes rfl).ends hattempt fun m _ => by cases m <;> trivial
    rw [List.nil_append] at hok herror
    have hcrashes : (Move.answered .queue ticket :: Move.answered (.permit ticket) () ::
        (ms₃ ++ [Move.answered (.unmark g) (), Move.answered .wake ()] ++ [Move.answered .leave ()])).filterMap Move.crash? =
        ms₃.filterMap Move.crash? := by
      rw [List.filterMap_cons_none rfl, List.filterMap_cons_none rfl, List.filterMap_append, List.filterMap_append]
      exact (List.append_nil _).trans (List.append_nil _)
    rw [hcrashes, ← hreport]
    rcases r with (_ | why) | c
    · exact ⟨nofun, fun hr => nomatch (herror _ rfl reason).1 hr⟩
    · exact ⟨fun hr => (herror _ rfl reason).2 (by cases hr; rfl), fun hr => by cases (herror _ rfl reason).1 hr; rfl⟩
    · rw [(hok c rfl).1]
      exact ⟨nofun, nofun⟩
  · nomatch hresult

end

/-- What a round says that was not cut short. -/
def Task.rounded? (t : Task) : Option (List (AccessUrl × TickOutcome)) :=
  match t.origin, t.cut, t.program with
  | .operation .round, none, .done (.rounded os) => some os
  | _, _, _ => none

theorem Task.of_rounded? {t : Task} {os : List (AccessUrl × TickOutcome)} (h : t.rounded? = some os) :
    t.origin = .operation .round ∧ t.cut = none ∧ t.program = .done (.rounded os) := by
  unfold rounded? at h
  split at h
  · rename_i ho hc hr
    cases h
    exact ⟨ho, hc, hr⟩
  · nomatch h

/-- That a task which has ended was a round, and what it did and says. -/
structure State.Accounted (s : Scheduler) (start : State) (es : List Event) (x : State) (t : Task) (r : Round) : Prop where
  moves : t.moves = r.moves
  reports : t.program = .done (.rounded r.outcomes)
  /-- It went through the watched registries, whatever came of each. -/
  discovers : Discoveries (if s.discovery then s.watched else []) r.discovery
  /-- It has outcomes for the services that were registered when its discovery part was over. -/
  lists : ∃ y z, Made s start es x t r.discovery (.answered .services r.services) y z ∧
    ∀ url, url ∈ r.outcomes.map Prod.fst ↔ y.world.registry.contains url = true
  /-- There is one outcome for each of them, in the order of their URLs. -/
  sorted : (r.outcomes.map Prod.fst).Pairwise fun a b => compare a b = .lt
  /-- A service was skipped exactly if its URL was marked when the round tried to mark it. -/
  skips : ∀ o ∈ r.outcomes, ∃ ms a y z, r.discovery ++ [.answered .services r.services] <+: ms ∧
    Made s start es x t ms (.answered (.tryMark o.1) a) y z ∧ (o.2 = .skipped ↔ o.1 ∈ y.world.inFlight)
  /-- The others have ticks of their own, in tasks which have ended. The outcome is what the tick reported; it tells of a crash exactly if
  that tick crashed. -/
  ticks : ∀ url g n told, .ticked url g n told ∈ r.errands → g.url = url ∧ ∃ v ∈ x.ended, v.id = n ∧
    (∀ u ∈ x.tasks ++ x.ended, u.id = n → u = v) ∧ v.origin = .job (.tick g) ∧
    (∀ result, told = .ok result ↔ v.program = .done (.ticked result)) ∧ ∀ reason, told = .error reason ↔ v.Crashed reason
  /-- No mark that it took is held any more. -/
  restores : ∀ m ∈ t.moves, ∀ g, m.taken? = some g → g ∉ x.world.guards

namespace State

variable {s : Scheduler} {start x y z : State} {es : List Event} {t : Task}

/-- A URL is found to be marked exactly if it is in flight, and the guard that is taken otherwise is one of the URL. -/
theorem Made.marked {ms : List Move} {url : AccessUrl} {a : Option Guard} (h : Made s start es x t ms (.answered (.tryMark url) a) y z) :
    (a = none ↔ url ∈ y.world.inFlight) ∧ ∀ g, a = some g → g.url = url := by
  obtain ⟨_, _, _, _, _, p, hp⟩ := h.task
  cases a with
  | none => exact ⟨⟨fun _ => h.step.marked, fun _ => rfl⟩, nofun⟩
  | some g =>
    have hurl := h.step.guard_url
    have hfree := (hp.signalled.fresh g rfl).2
    rw [hurl] at hfree
    refine ⟨⟨nofun, fun hu => absurd hu hfree⟩, fun g' hg => ?_⟩
    rw [← Option.some.inj hg]
    exact hurl

/-- What is told of a task is what it reported. -/
theorem told_of_tick? {report : Report} {told : Except String TickResult} (h : report.tick? = some told) :
    (∀ result, told = .ok result ↔ report = .ticked result) ∧ ∀ reason, told = .error reason ↔ report = .crashed reason := by
  unfold Report.tick? at h
  split at h <;> cases h <;> simp

/-- The task of a tick that has ended reported a crash exactly if it crashed. -/
theorem Recorded.crashed_iff (h : x.Recorded s) (ht : t ∈ x.ended) {g : Guard} (ho : t.origin = .job (.tick g)) {report : Report}
    (hr : t.program = .done report) (reason : String) : report = .crashed reason ↔ t.Crashed reason := by
  have hrecorded := (h.ended t ht).1
  unfold Task.Recorded at hrecorded
  unfold Task.Crashed
  cases hcut : t.cut with
  | none =>
    rw [hcut, ho, hr] at hrecorded
    exact Program.Trace.crashed_iff (s := s) hrecorded reason
  | some why =>
    rw [hcut, hr] at hrecorded
    rw [hrecorded [] report (.nil _)]
    exact ⟨Report.crashed.inj, congrArg Report.crashed⟩

/-- In every state of every run from a quiet state in which there are permits, all rounds under way are going to end, however tasks go on
and wherever they are cut short; and each round that has ended and was not cut short itself accounts for every service once. -/
theorem Run.rounds_account {n : Nat} (h : State.Run s start es x) (hq : start.Quiet) (hd : start.world.registry.Distinct)
    (hf : start.world.finished = []) (hp : start.world.permits = .ofNat n) (hn : 0 < n) :
    (∀ t ∈ x.tasks, t.origin = .operation .round → Inevitable s (fun y => ∃ u ∈ y.ended, u.id = t.id ∧ u.origin = t.origin) x) ∧
    ∀ t ∈ x.ended, t.origin = .operation .round → t.cut = none → ∃ r, Accounted s start es x t r := by
  refine ⟨fun t ht _ => h.ends hq hp hn ht, fun t ht ho hc => ?_⟩
  have hmem : t ∈ x.tasks ++ x.ended := List.mem_append_right _ ht
  have hnumbered := h.numbered hq.tasks hq.ended hq.spawned
  obtain ⟨hrecorded, report, hr⟩ := (h.recorded hq.tasks hq.ended).ended t ht
  rw [Task.Recorded, hc, ho, hr] at hrecorded
  obtain ⟨os, rfl, htrace⟩ := Program.Trace.of_round (s := s) hrecorded
  obtain ⟨r, hmoves, rfl, hdiscovers, hurls⟩ := htrace.of_runOnce
  have hmade := h.made hq.tasks hq.ended t hmem
  obtain ⟨y, z, hlist⟩ := hmade _ _ _ hmoves
  -- the services that are listed are those of the registry, by their URLs
  obtain ⟨_, _, _, hy, _⟩ := hlist.run
  obtain ⟨_, _, _, _, _, p, hp⟩ := hlist.task
  have hservices : r.services = y.world.registry.getAll := hp.services_eq.1
  have hdistinct : y.world.registry.Distinct := hy.registry hd fun _ _ hd he => hd.edit he
  have hlisted : r.outcomes.map Prod.fst = y.world.registry.getAll.map Service.url := by
    rw [r.urls_outcomes, hurls, hservices]
  refine ⟨r,
    { moves := hmoves
      reports := hr
      discovers := hdiscovers
      lists := ⟨y, z, hlist, fun url => ?_⟩
      sorted := hlisted ▸ hdistinct.sorted_getAll
      skips := fun o ho => ?_
      ticks := fun url g n told he => ?_
      restores := fun m hm g hg => h.restores hq hf ht hc hm hg }⟩
  · rw [hlisted, Registry.contains, Option.isSome_iff_exists]
    constructor
    · intro hu
      obtain ⟨service, hs, rfl⟩ := List.mem_map.1 hu
      exact ⟨service, hdistinct.get?_of_mem_getAll hs⟩
    · rintro ⟨service, hs⟩
      have hurl := hdistinct.url_eq hs
      exact List.mem_map.2 ⟨service, hdistinct.mem_getAll_iff.2 (hurl.symm ▸ hs), hurl⟩
  · obtain ⟨e, he, rfl⟩ := List.mem_map.1 ho
    obtain ⟨ms, a, rest, hsplit, hskipped⟩ := r.exists_marked he
    obtain ⟨y', z', hmarking⟩ := hmade _ _ _ (hmoves.trans hsplit)
    exact ⟨_, a, y', z', List.prefix_append _ _, hmarking, hskipped.trans hmarking.marked.1⟩
  · have hmark : Move.answered (.tryMark url) (some g) ∈ t.moves := hmoves ▸ r.starts_mem he (.head _)
    have hspawn : Move.answered (.spawn (.tick g)) n ∈ t.moves := hmoves ▸ r.starts_mem he (.tail _ (.head _))
    have hjoin : Move.answered (.join n) told ∈ t.moves := hmoves ▸ r.joins_mem he (.head _)
    obtain ⟨ms, ms', hsplit⟩ := List.append_of_mem hmark
    obtain ⟨y', z', hmarking⟩ := hmade _ _ _ hsplit
    obtain ⟨v, hv, hid, horigin, report, hreport, htold⟩ := h.told hq hf ht hspawn hjoin
    obtain ⟨hok, herror⟩ := told_of_tick? htold
    refine ⟨hmarking.marked.2 g rfl, v, hv, hid, fun u hu huid => ?_, horigin, fun result => ?_, fun reason => ?_⟩
    · exact hnumbered.eq_of_id hu (List.mem_append_right _ hv) (huid.trans hid.symm)
    · rw [hok, hreport]
      exact ⟨congrArg Program.done, Program.done.inj⟩
    · exact (herror reason).trans ((h.recorded hq.tasks hq.ended).crashed_iff hv horigin hreport reason)

/-- A round whose discovery fails, of three services: the tick of the first panics, that of the second succeeds, and the third is skipped,
since somebody else is at work on it. -/
theorem Run.rounds_account_after_panic :
    let first : AccessUrl := ⟨"http://a"⟩
    let second : AccessUrl := ⟨"http://b"⟩
    let third : AccessUrl := ⟨"http://c"⟩
    let s : Scheduler := ⟨⟨false, 1000⟩, true, [⟨⟨"http://registry"⟩, .none⟩], 1000⟩
    let start : State := ⟨World.initial (.ofNat 1), [], []⟩
    ∃ es x t r, State.Run s start es x ∧ start.Quiet ∧ start.world.registry.Distinct ∧ start.world.finished = [] ∧
      start.world.permits = .ofNat 1 ∧ t ∈ x.ended ∧ t.origin = .operation .round ∧ t.cut = none ∧ Accounted s start es x t r ∧
      r.outcomes.map (fun o => (o.1, o.2.result?.map Outcome.failures)) =
        [(first, some [.fatal "tick task failed: task N panicked with message \"panic\""]), (second, some []), (third, none)] := by
  intro first second third s start
  let go (place n : Nat) : List Choice := List.replicate n (.move place .go)
  let register (url : AccessUrl) : List Choice := [.call (.register (.fresh url)), .move 0 .go, .finish 0]
  let panicking : List Choice := .begin 0 :: go 2 4 ++ .cut 2 "panic" :: go 2 3 ++ [.finish 2]
  let served : List Choice := .begin 0 :: go 2 4 ++ .move 2 (.fetched (.ok (.ok .empty))) :: go 2 6 ++ [.finish 2]
  let choices : List Choice := register first ++ register second ++ register third ++
    .call (.synchronize third) :: .move 0 .go :: .call .round :: .move 1 (.advertised (.error (.status 500))) :: go 1 6 ++
    panicking ++ served ++ go 1 2 ++ [.finish 1]
  have hplayed : ((State.replay s start choices).bind fun r => r.2.ended.findSome? Task.rounded?).map
      (List.map fun o => (o.1, o.2.result?.map Outcome.failures)) =
      some [(first, some [.fatal "tick task failed: task N panicked with message \"panic\""]), (second, some []), (third, none)] := by
    cbv
  obtain ⟨os, hfound, houtcomes⟩ := Option.map_eq_some_iff.1 hplayed
  obtain ⟨⟨es, x⟩, hreplay, hfound⟩ := Option.bind_eq_some_iff.1 hfound
  have hrun : State.Run s start es x := State.run_of_replay hreplay
  obtain ⟨t, ht, hrounded⟩ := List.exists_of_findSome?_eq_some hfound
  obtain ⟨ho, hc, hr⟩ := Task.of_rounded? hrounded
  have hquiet : start.Quiet := State.quiet_initial _
  obtain ⟨r, hr'⟩ := (hrun.rounds_account hquiet Registry.distinct_empty rfl rfl Nat.one_pos).2 t ht ho hc
  obtain rfl : os = r.outcomes := Report.rounded.inj (Program.done.inj (hr.symm.trans hr'.reports))
  exact ⟨es, x, t, r, hrun, hquiet, Registry.distinct_empty, rfl, rfl, ht, ho, hc, hr', houtcomes⟩

end State

end CatalogSync.Engine
