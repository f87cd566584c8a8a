import CatalogSync.Proofs.Engine.Account
import CatalogSync.Proofs.Engine.Joins
import CatalogSync.Proofs.Pipeline.Grading

/-!
# Tags and severities of ticks

Every result of a tick or an unregistration that a task reports is well-formed, whatever the secret store, the clients and the catalog
do and however tasks interleave (`tags_agree`). Each step of a tick is sound, so its pipeline is; and whoever waits for a tick in a
task of its own is told what that task reported, or makes a fatal result of its crash.
-/

namespace CatalogSync.Engine

/-! ## Results that are reported -/

/-- The result of a tick that was not skipped. -/
def TickOutcome.result? : TickOutcome → Option TickResult
  | skipped => none
  | completed r => some r

/-- The results of ticks and unregistrations in a report. -/
def Report.results : Report → List TickResult
  | ticked r | unregistered r => [r]
  | asked outcome => outcome.result?.toList
  | rounded outcomes => outcomes.filterMap fun x => x.2.result?
  | scheduled outcome => (outcome.bind TickOutcome.result?).toList
  | registered _ | discovered _ | held _ | fetched _ | slept _ | crashed _ => []

/-- That every result in a report is well-formed. -/
def Report.WellFormed (report : Report) : Prop := ∀ r ∈ report.results, r.WellFormed

/-- A property of whatever result there is, said of completed ticks. -/
theorem TickOutcome.forall_result? {P : TickResult → Prop} {outcome : TickOutcome} :
    (∀ r ∈ outcome.result?.toList, P r) ↔ ∀ r, outcome = .completed r → P r := by
  cases outcome <;> simp [result?]

namespace Tick

/-! ## The steps of a tick -/

/-- Work that ends at once ends in no value. -/
theorem satisfies_halt {α : Type} {P : α → Prop} (h : Halt) : SatisfiesM P (Timed.halt h : Timed α) := by
  rw [SatisfiesM_ReaderT_eq]
  intro d
  rw [SatisfiesM_ExceptT_eq]
  exact SatisfiesM.pure (m := Program) (a := Except.error h) nofun

/-- A step that fails without content reports the failure it fails with. -/
theorem wellFormed_failed {α : Type} (e : SyncError) : (failed e : Outcome (Option α)).WellFormed :=
  Outcome.wellFormed_ofFailure none e.toFailure

/-- Fetching ends in well-formed outcomes only. -/
theorem sound_fetching : fetching.Sound := by
  intro s
  refine SatisfiesM.trivial.bind ?_
  rintro (e | headers) -
  · exact SatisfiesM.pure (wellFormed_failed e)
  · refine SatisfiesM.trivial.bind ?_
    rintro (reason | e | graph) -
    · exact satisfies_halt _
    · exact SatisfiesM.pure (wellFormed_failed _)
    · exact SatisfiesM.pure trivial

/-- So does diffing. -/
theorem sound_diffing : diffing.Sound := by
  rintro (_ | f)
  · exact SatisfiesM.pure trivial
  · refine SatisfiesM.trivial.bind ?_
    rintro (_ | current) -
    · exact SatisfiesM.pure (wellFormed_failed _)
    · dsimp only
      split
      · exact SatisfiesM.pure (wellFormed_failed _)
      · exact SatisfiesM.trivial.bind fun _ _ => SatisfiesM.pure trivial

/-- So does updating. -/
theorem sound_updating : updating.Sound := by
  rintro (_ | d)
  · exact SatisfiesM.pure trivial
  · refine SatisfiesM.trivial.bind ?_
    rintro (e | old) -
    · exact SatisfiesM.pure (wellFormed_failed _)
    · exact SatisfiesM.pure trivial

/-- An error of the catalog is a warning. -/
theorem isFatal_apply (e : ApplyError) : (SyncError.apply e).toFailure.isFatal = false := rfl

/-- So does emitting. -/
theorem sound_emitting : emitting.Sound := by
  rintro (_ | d)
  · exact SatisfiesM.pure trivial
  · show SatisfiesM _ (if d.changes.isEmpty then _ else _)
    split
    · exact SatisfiesM.pure trivial
    · refine SatisfiesM.trivial.bind ?_
      rintro (e | ⟨⟩) -
      · exact SatisfiesM.pure ⟨by simp, by simp [isFatal_apply]⟩
      · exact SatisfiesM.pure trivial

/-- So does the pipeline of a tick, which merges what its steps report. -/
theorem sound_pipeline (onlySubmodels : Bool) : (pipeline onlySubmodels).Sound := by
  have hfetch : (fetchPipeline onlySubmodels).Sound := by
    cases onlySubmodels with
    | false => exact ⟨trivial, sound_fetching⟩
    | true => exact ⟨⟨trivial, sound_fetching⟩, Step.sound_ofFn _ fun _ => trivial⟩
  exact ((hfetch.step sound_diffing _).step sound_updating _).step sound_emitting _

/-- The result for a service that is not registered holds the failure that says so. -/
theorem wellFormed_notRegistered (url : AccessUrl) : (notRegistered url).WellFormed := ⟨by simp, by simp; rfl⟩

/-- The result of an abandoned tick holds the failure that says so. -/
theorem wellFormed_abandoned (timeout : Nat) : (abandoned timeout).WellFormed := ⟨by simp, by simp; rfl⟩

end Tick

/-! ## Ticks and unregistrations -/

/-- That what was not a crash is well-formed. -/
def Graceful (x : Except String TickResult) : Prop := ∀ r, x = .ok r → r.WellFormed

/-- A well-formed result is graceful. -/
theorem graceful_ok {r : TickResult} (h : r.WellFormed) : Graceful (.ok r) := by
  rintro _ ⟨⟩
  exact h

/-- A crash has no result to be judged. -/
theorem graceful_error (reason : String) : Graceful (.error reason) := nofun

namespace Synchronizer

variable (y : Synchronizer)

/-- A tick's pipeline is graceful, whether it completes, crashes or runs out of time. -/
theorem graceful_runPipeline (service : Service) : SatisfiesM Graceful (y.runPipeline service) := by
  refine SatisfiesM.trivial.bind fun start _ => ?_
  have hpipeline := (Tick.sound_pipeline y.onlySubmodels).execute service
  rw [SatisfiesM_ReaderT_eq] at hpipeline
  have hrun := hpipeline (some (start + y.timeout))
  rw [SatisfiesM_ExceptT_eq] at hrun
  refine hrun.bind ?_
  rintro ((_ | reason) | r) hr
  · exact SatisfiesM.pure (graceful_ok (Tick.wellFormed_abandoned _))
  · exact SatisfiesM.pure (graceful_error reason)
  · exact SatisfiesM.pure (graceful_ok (hr r rfl))

/-- So is a tick. -/
theorem graceful_runTick (g : Guard) : SatisfiesM Graceful (y.runTick g) := by
  have hattempt : SatisfiesM Graceful (y.attempt g) := by
    refine SatisfiesM.trivial.bind ?_
    rintro (_ | service) -
    · exact SatisfiesM.pure (graceful_ok (Tick.wellFormed_notRegistered g.url))
    · exact y.graceful_runPipeline service
  rw [runTick_eq]
  exact hattempt.bind fun r hr => SatisfiesM.trivial.bind fun _ _ => SatisfiesM.pure hr

end Synchronizer

/-- The result of cleaning up is well-formed in each of its four cases. -/
theorem wellFormed_cleanUp (url : AccessUrl) : SatisfiesM Outcome.WellFormed (cleanUp url) := by
  refine SatisfiesM.trivial.bind ?_
  rintro (_ | service) -
  · exact SatisfiesM.pure (Tick.wellFormed_notRegistered url)
  · dsimp only
    split
    · exact SatisfiesM.pure trivial
    · refine SatisfiesM.trivial.bind ?_
      rintro (e | ⟨⟩) -
      · exact SatisfiesM.pure ⟨by simp, by simp [Tick.isFatal_apply]⟩
      · exact SatisfiesM.pure trivial

/-- So is the result of an unregistration. -/
theorem wellFormed_unregister (url : AccessUrl) : SatisfiesM Outcome.WellFormed (unregister url) :=
  SatisfiesM.trivial.bind fun _ _ => (wellFormed_cleanUp url).bind fun _ hr =>
    SatisfiesM.trivial.bind fun _ _ => SatisfiesM.pure hr

/-! ## Rounds -/

/-- What whoever waits for a task may be told: a well-formed result, or a crash. -/
def Honest : (r : Request) → r.Answer → Prop
  | .join _, a => Graceful a
  | _, _ => True

/-- Asking for anything among honest answers. -/
abbrev honest : Calculus (List Move) := asking (fun _ _ => True) Honest

section

variable {N : (r : Request) → r.Answer → Prop} {ms : List Move}

/-- Nothing is promised of what a program ends in, and it may ask for anything. -/
theorem Program.meets_trivial {α : Type} (p : Program α) : p.Meets (asking (fun _ _ => True) N) ms fun _ _ => True := by
  induction p generalizing ms with
  | done a => trivial
  | ask r k ih => exact ⟨trivial, fun a _ => ih a, trivial⟩
  | within d r k ih => exact ⟨trivial, fun a _ => ih (some a), ih none⟩
  | hold url vigil k ih => exact fun _ g _ => ih g

/-- What a program may only return, it returns wherever it is done. -/
theorem Program.meets_of_satisfies {α : Type} {P : α → Prop} {p : Program α} (h : SatisfiesM P p) :
    p.Meets (asking (fun _ _ => True) N) ms fun a _ => P a := by
  obtain ⟨p', rfl⟩ := h
  rw [← bind_pure_comp]
  exact (Program.meets_trivial p').seq fun a _ _ => a.2

end

namespace Scheduler

variable {ms : List Move}

/-- A result that a task is waited for is what the task reported, and else fatal with a fatal failure. -/
theorem meets_finishTick (task : Option Nat) :
    (finishTick task).Meets honest ms fun outcome _ => ∀ r, outcome = .completed r → r.WellFormed := by
  cases task with
  | none => exact nofun
  | some n =>
    have hjoin : (Program.request (.join n)).Meets honest ms fun a _ => Graceful a := ⟨trivial, fun a ha => ha, trivial⟩
    refine hjoin.seq ?_
    rintro (reason | r) _ ha
    · rintro _ ⟨⟩
      exact ⟨_, List.mem_singleton_self _, rfl⟩
    · rintro _ ⟨⟩
      exact ha r rfl

/-- Outcomes of tasks that report well-formed results are collected as they are. -/
theorem meets_finishTicks (tasks : List (AccessUrl × Option Nat)) :
    (finishTicks tasks).Meets honest ms fun outcomes _ => ∀ x ∈ outcomes, ∀ r, x.2 = .completed r → r.WellFormed := by
  induction tasks generalizing ms with
  | nil => exact nofun
  | cons x rest ih =>
    obtain ⟨url, task⟩ := x
    refine (meets_finishTick task).seq fun outcome _ ho => ?_
    exact ih.seq fun outcomes _ hos => List.forall_mem_cons.2 ⟨ho, hos⟩

/-- A round hands on well-formed results, given that its tasks report such. -/
theorem meets_runOnce (s : Scheduler) :
    s.runOnce.Meets honest ms fun outcomes _ => ∀ x ∈ outcomes, ∀ r, x.2 = .completed r → r.WellFormed := by
  have hticks : ∀ {ms}, Program.Meets honest (do finishTicks (← startTicks (← Program.request .services))) ms
      fun outcomes _ => ∀ x ∈ outcomes, ∀ r, x.2 = .completed r → r.WellFormed := by
    intro ms
    refine Program.Meets.seq (p := Program.request .services) (Program.meets_trivial _) fun services _ _ => ?_
    exact (Program.meets_trivial _).seq fun tasks _ _ => meets_finishTicks tasks
  unfold runOnce
  split
  · exact (Program.meets_trivial _).seq fun _ _ _ => hticks
  · exact hticks

/-- So does a registration, if it waits for the first tick. -/
theorem meets_register (service : Service) :
    (register service).Meets honest ms fun outcome _ => ∀ o, outcome = some o → ∀ r, o = .completed r → r.WellFormed := by
  refine Program.Meets.seq (p := Program.request (.register service)) (Program.meets_trivial _) fun isNew _ _ => ?_
  split
  · refine (Program.meets_trivial _).seq fun task _ _ => (meets_finishTick task).seq fun outcome _ ho => ?_
    rintro _ ⟨⟩
    exact ho
  · exact nofun

end Scheduler

/-- The report of a round is well-formed if the outcomes in it are. -/
theorem Report.wellFormed_rounded {outcomes : List (AccessUrl × TickOutcome)}
    (h : ∀ x ∈ outcomes, ∀ r, x.2 = .completed r → r.WellFormed) : (Report.rounded outcomes).WellFormed := by
  intro r hr
  obtain ⟨x, hx, hr⟩ := List.mem_filterMap.1 hr
  exact TickOutcome.forall_result?.2 (h x hx) r (Option.mem_toList.2 hr)

/-- Whatever task reports, its results are well-formed if those are that it is told of. -/
theorem Origin.meets_honest (s : Scheduler) (origin : Origin) {ms : List Move} :
    (origin.program s).Meets honest ms fun report _ => report.WellFormed := by
  have hround : ∀ {ms}, Program.Meets honest (do return Report.rounded (← s.runOnce)) ms fun report _ => report.WellFormed :=
    s.meets_runOnce.seq fun _ _ h => Report.wellFormed_rounded h
  rcases origin with op | g | _
  · cases op with
    | register service | discover registry auth =>
      exact (Program.meets_trivial _).seq fun _ _ _ => by
        intro r hr
        nomatch hr
    | synchronize url =>
      refine (Program.meets_of_satisfies (P := fun x => ∀ o, x = .ok o → ∀ r, o = TickOutcome.completed r → r.WellFormed) ?_).seq ?_
      · refine SatisfiesM.trivial.bind ?_
        rintro (_ | g) -
        · exact SatisfiesM.pure (by rintro _ ⟨⟩; exact nofun)
        · refine (s.synchronizer.graceful_runTick g).bind ?_
          rintro (reason | r) hr
          · exact SatisfiesM.pure nofun
          · refine SatisfiesM.pure ?_
            rintro _ ⟨⟩ _ ⟨⟩
            exact hr r rfl
      · rintro (reason | outcome) _ h
        · exact nofun
        · exact TickOutcome.forall_result?.2 (h outcome rfl)
    | unregister url =>
      exact (Program.meets_of_satisfies (wellFormed_unregister url)).seq fun r _ hr => by
        intro r' hr'
        rwa [List.mem_singleton.1 hr']
    | round => exact hround
    | schedule service =>
      refine (Scheduler.meets_register service).seq ?_
      rintro (_ | outcome) _ h
      · exact nofun
      · exact TickOutcome.forall_result?.2 (h outcome rfl)
  · refine (Program.meets_trivial _).seq (p := Program.request .queue) fun ticket _ _ => ?_
    refine (Program.meets_trivial _).seq fun _ _ _ => ?_
    refine (Program.meets_of_satisfies (s.synchronizer.graceful_runTick g)).seq fun x _ hx => ?_
    refine (Program.meets_trivial _).seq fun _ _ _ => ?_
    rcases x with reason | r
    · exact nofun
    · intro r' hr'
      rw [List.mem_singleton.1 hr']
      exact hx r rfl
  · exact hround

/-- What is left of a task that was cut short reports no result. -/
theorem meets_unwind (reason : String) (permits : Nat) (gs : List Guard) {ms : List Move} :
    (unwind reason permits gs).Meets honest ms fun report _ => report.WellFormed := by
  induction gs generalizing ms with
  | nil =>
    have hsurrender : ∀ n {ms}, (surrender reason n).Meets honest ms fun report _ => report.WellFormed := by
      intro n
      induction n with
      | zero => exact nofun
      | succ n ih => exact (Program.meets_trivial (Program.request .leave)).seq fun _ _ _ => ih
    exact hsurrender permits
  | cons g gs ih => exact (Program.meets_trivial (Program.release g)).seq fun _ _ _ => ih

/-! ## Runs -/

/-- A state in which tasks report well-formed results, if they are told of such. -/
structure State.Honest (x : State) : Prop where
  tasks : ∀ t ∈ x.tasks, t.program.Meets honest t.moves fun report _ => report.WellFormed
  ended : ∀ t ∈ x.ended, ∀ report, t.program = .done report → report.WellFormed

/-- What an ended task reported of its tick is well-formed, or a crash. -/
theorem State.Honest.graceful {x : State} (h : x.Honest) {task : Nat} {a : Except String TickResult} (ha : x.Reported task a) :
    Graceful a := by
  obtain ⟨t, ht, _, report, hr, htick⟩ := ha
  have hwell := h.ended t ht report hr
  cases report with
  | ticked r =>
    cases htick
    exact graceful_ok (hwell r (List.mem_singleton_self r))
  | crashed reason =>
    cases htick
    exact graceful_error reason
  | registered | asked | unregistered | discovered | rounded | scheduled | held | fetched | slept => nomatch htick

/-- Where what waits to be told is honest, moves are. -/
theorem Program.Step.given {α : Type} {w w' : World} {p p' : Program α} {m : Move} (h : Program.Step w p m w' p')
    (hf : ∀ f ∈ w.finished, Graceful f.2) : m.Given Honest := by
  cases m with
  | answered r a =>
    cases r with
    | join task => exact hf _ h.booked.fair
    | _ => trivial
  | expired | listened | took | yielded | woken => trivial

/-- No step spoils this: what a task is told of is what another one has reported. -/
theorem State.Honest.step {s : Scheduler} {x y : State} {e : Event} (h : x.Honest) (hj : x.Joined) (hs : State.Step s x e y) :
    y.Honest := by
  have hf : ∀ f ∈ x.world.finished, Graceful f.2 := fun f hf => h.graceful (hj.finished f hf)
  refine ⟨hs.forall_tasks h.tasks ?_ ?_ ?_, ?_⟩
  · exact fun id origin => origin.meets_honest s
  · exact fun t ht m p hp => (ht.goes hp.goes (hp.given hf)).1
  · exact fun t _ _ reason => meets_unwind reason _ _
  · cases hs with
    | @finish w before after past t report hr =>
      intro u hu
      rcases List.mem_append.1 hu with hu | hu
      · exact h.ended u hu
      · obtain rfl := List.mem_singleton.1 hu
        have hu := h.tasks u (List.mem_append_right _ List.mem_cons_self)
        rw [hr] at hu
        rintro _ hr'
        rw [hr] at hr'
        cases hr'
        exact hu
    | call | begin | move | cut | pass => exact h.ended

/-- In a run from a quiet state tasks only report well-formed results. -/
theorem State.Run.honest {s : Scheduler} {start x : State} {es : List Event} (h : State.Run s start es x) (hq : start.Quiet)
    (hf : start.world.finished = []) : x.Honest := by
  have hstart : start.Honest ∧ start.Joined :=
    ⟨⟨by simp [hq.tasks], by simp [hq.ended]⟩, ⟨by simp [hf], by simp [hq.tasks], by simp [hq.ended]⟩⟩
  have hx := h.invariant (P := fun x => x.Honest ∧ x.Joined) hstart fun _ _ _ _ hx hs => ⟨hx.1.step hx.2 hs, hx.2.step hs⟩
  exact hx.1

/-- Mapping content, making an outcome of one failure and merging outcomes keep tags and severities in agreement; so do, in every
monad, filters, feeders and zippers over sound steps, and pipelines of any length of sound steps, however they are run; and whatever
result of a tick or an unregistration a task reports, in whatever run from a quiet state, is well-formed. A result is well-formed
exactly if its tag is the gravest severity that it carries. -/
theorem tags_agree :
    (∀ {α β : Type} (f : α → β) (r : Outcome α), r.WellFormed → (r.map f).WellFormed) ∧
    (∀ {α : Type} (content : Option α) (f : Failure), (Outcome.ofFailure content f).WellFormed) ∧
    (∀ {α : Type} (rs : List (Outcome α)), (∀ r ∈ rs, r.WellFormed) → (Outcome.merge rs).WellFormed) ∧
    (∀ (m : Type → Type) [Monad m] [LawfulMonad m], Layers m) ∧
    (∀ {s : Scheduler} {start x : State} {es : List Event}, State.Run s start es x → start.Quiet → start.world.finished = [] →
      ∀ t ∈ x.ended, ∀ report, t.program = .done report → ∀ r ∈ report.results, r.WellFormed) ∧
    ∀ {α : Type} (r : Outcome α), r.WellFormed ↔ r.Graded :=
  ⟨fun f _ h => h.map f, Outcome.wellFormed_ofFailure, fun _ => Outcome.wellFormed_merge, fun m _ _ => layers m,
    fun h hq hf => (h.honest hq hf).ended, Outcome.wellFormed_iff_graded⟩

/-- The client crashes in the tick of a round, and is then refused in a tick that a caller asks for: the one tick is fatal, and the
other fails with a warning. Merged, they are fatal. -/
theorem tags_agree_crashed_round :
    let s : Scheduler := ⟨⟨false, 1000⟩, false, [], 1000⟩
    let start : State := ⟨World.initial (.ofNat 1), [], []⟩
    (Step.feeder Tick.fetching).Sound ∧
    ∃ es x rs, State.Run s start es x ∧ start.Quiet ∧ start.world.finished = [] ∧
      (∀ r ∈ rs, ∃ t ∈ x.ended, ∃ report, t.program = .done report ∧ r ∈ report.results) ∧
      rs.map (fun r => (r.isFatal, r.failures.map Failure.severity)) = [(true, [.fatal]), (false, [.warning])] ∧
      (∀ r ∈ rs, r.WellFormed ∧ r.Graded) ∧ (Outcome.merge rs).WellFormed := by
  intro s start
  let url : AccessUrl := ⟨"http://host"⟩
  let go (place n : Nat) : List Choice := List.replicate n (.move place .go)
  let round : List Choice := .call .round :: go 0 3 ++ .begin 0 :: go 1 4 ++ .move 1 (.fetched (.error "panic")) :: go 1 3 ++
    .finish 1 :: go 0 1 ++ [.finish 0]
  let asked : List Choice := .call (.synchronize url) :: go 0 3 ++ .move 0 (.fetched (.ok (.error (.status 500)))) :: go 0 3 ++
    [.finish 0]
  let results (x : State) : List TickResult := x.ended.flatMap fun t => (t.program.value?.map Report.results).getD []
  let choices : List Choice := [.call (.register (.fresh url)), .move 0 .go, .finish 0] ++ round ++ asked
  obtain ⟨es, x, hrun, htags⟩ := State.exists_run (s := s) (x := start) (b := [(true, [.fatal]), (false, [.warning])])
    (fun _ x => (results x).map fun r => (r.isFatal, r.failures.map Failure.severity))
    (by decide +kernel +zetaReduce : (State.replay s start choices).map _ = _)
  have hquiet : start.Quiet := State.quiet_initial _
  have hreported : ∀ r ∈ results x, ∃ t ∈ x.ended, ∃ report, t.program = .done report ∧ r ∈ report.results := by
    intro r hr
    obtain ⟨t, ht, hr⟩ := List.mem_flatMap.1 hr
    cases hvalue : t.program.value? with
    | none => simp [hvalue] at hr
    | some report =>
      rw [hvalue] at hr
      exact ⟨t, ht, report, Program.eq_done_of_value? hvalue, hr⟩
  obtain ⟨_, _, hmerge, hlayers, hruns, hgraded⟩ := tags_agree
  have hwell : ∀ r ∈ results x, r.WellFormed := by
    intro r hr
    obtain ⟨t, ht, report, hdone, hr⟩ := hreported r hr
    exact hruns hrun hquiet rfl t ht report hdone r hr
  exact ⟨(hlayers Timed).feeder _ Tick.sound_fetching, es, x, results x, hrun, hquiet, rfl, hreported, htags,
    fun r hr => ⟨hwell r hr, (hgraded r).1 (hwell r hr)⟩, hmerge _ hwell⟩

end CatalogSync.Engine
