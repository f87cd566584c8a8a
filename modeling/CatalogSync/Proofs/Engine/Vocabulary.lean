import CatalogSync.Proofs.Engine.Account
import CatalogSync.Proofs.Engine.Trace

/-!
# What programs ask for

Many questions about a program are about nothing but the requests that it may ever make, whatever it is answered (`Program.Only`). The
run of a tick asks for its fetch, its exchange and the catalog, and the sink and the clock (`Synchronizer.only_attempt`); and but for
ticks in tasks of their own nobody asks for a permit (`Origin.unmetered`).
-/

namespace CatalogSync.Engine

/-! ## What a program asks for -/

/-- That a program asks only for what it may, whatever it is answered. To wait for a guard is to try to mark its URL. -/
def Program.Only (A : Request → Prop) {α : Type} : Program α → Prop
  | .done _ => True
  | .ask r k => A r ∧ ∀ a, (k a).Only A
  | .within _ r k => A r ∧ ∀ a, (k a).Only A
  | .hold url _ k => A (.tryMark url) ∧ ∀ g, (k g).Only A

namespace Program

variable {α β : Type} {A B : Request → Prop} {p p' : Program α}

/-- A request asks for itself only. -/
theorem only_request {r : Request} (h : A r) : (request r).Only A := ⟨h, fun _ => trivial⟩

/-- What asks for some requests only asks for no others in a larger set. -/
theorem Only.mono (h : p.Only A) (hAB : ∀ r, A r → B r) : p.Only B := by
  induction p with
  | done a => trivial
  | ask r k ih | within d r k ih => exact ⟨hAB r h.1, fun a => ih a (h.2 a)⟩
  | hold url vigil k ih => exact ⟨hAB _ h.1, fun g => ih g (h.2 g)⟩

/-- Two programs in turn ask for what each of them may ask for. -/
theorem Only.bind {f : α → Program β} (h : p.Only A) (hf : ∀ a, (f a).Only A) : (p >>= f).Only A := by
  induction p with
  | done a => exact hf a
  | ask r k ih | within d r k ih => exact ⟨h.1, fun a => ih a (h.2 a)⟩
  | hold url vigil k ih => exact ⟨h.1, fun g => ih g (h.2 g)⟩

/-- What a program asks for now is among what it may ask for. -/
theorem Only.asks (h : p.Only A) {r : Request} (ha : p.Asks r) : A r := by
  cases ha with
  | ask => exact h.1
  | within => exact h.1

/-- Whatever it is answered, a program keeps to what it may ask for. -/
theorem Only.goes (h : p.Only A) {m : Move} (hm : Goes p m p') : p'.Only A := by
  cases hm with
  | ask a => exact h.2 a
  | within a => exact h.2 (some a)
  | expire => exact h.2 none
  | take g => exact h.2 g
  | listen | yield | woken => exact h

/-- Every move about a request is about one that the program may make. -/
theorem Only.trace (h : p.Only A) {ms : List Move} (ht : Trace p ms p') : ∀ m ∈ ms, ∀ r, m.request? = some r → A r := by
  induction ht with
  | nil => simp
  | cons hm _ ih =>
    intro m hmem r hr
    rcases List.mem_cons.1 hmem with rfl | hmem
    · exact h.asks (hm.asks hr)
    · exact ih (h.goes hm) m hmem r hr

/-- A program that marks no URL never waits for a guard. -/
theorem Only.asked (h : p.Only A) (hA : ∀ url, ¬A (.tryMark url)) {ms : List Move} (ht : Trace p ms p') :
    ∀ m ∈ ms, ∃ r, m.request? = some r ∧ A r := by
  induction ht with
  | nil => simp
  | @cons p p₁ p' m ms hm _ ih =>
    intro m' hmem
    rcases List.mem_cons.1 hmem with rfl | hmem
    · cases hm with
      | ask | within | expire => exact ⟨_, rfl, h.1⟩
      | listen | take | yield | woken => exact absurd h.1 (hA _)
    · exact ih (h.goes hm) m' hmem

/-- That a program asks only for what it may, as long as it makes no moves but some. -/
def OnlyWhile (M : Move → Prop) (A : Request → Prop) {α : Type} : Program α → Prop
  | .done _ => True
  | .ask r k => A r ∧ ∀ a, M (.answered r a) → (k a).OnlyWhile M A
  | .within _ r k => A r ∧ (∀ a, M (.answered r a) → (k (some a)).OnlyWhile M A) ∧ (M (.expired r) → (k none).OnlyWhile M A)
  | .hold url _ k => A (.tryMark url) ∧ ∀ g, M (.took g) → (k g).OnlyWhile M A

variable {M : Move → Prop}

/-- What a program asks for under all circumstances it asks for under some. -/
theorem Only.onlyWhile (h : p.Only A) : p.OnlyWhile M A := by
  induction p with
  | done a => trivial
  | ask r k ih => exact ⟨h.1, fun a _ => ih a (h.2 a)⟩
  | within d r k ih => exact ⟨h.1, fun a _ => ih (some a) (h.2 _), fun _ => ih none (h.2 _)⟩
  | hold url vigil k ih => exact ⟨h.1, fun g _ => ih g (h.2 g)⟩

/-- And the other way round, if the circumstances are no restriction. -/
theorem OnlyWhile.only (h : p.OnlyWhile (fun _ => True) A) : p.Only A := by
  induction p with
  | done a => trivial
  | ask r k ih => exact ⟨h.1, fun a => ih a (h.2 a trivial)⟩
  | within d r k ih =>
    refine ⟨h.1, ?_⟩
    rintro (_ | a)
    · exact ih none (h.2.2 trivial)
    · exact ih (some a) (h.2.1 a trivial)
  | hold url vigil k ih => exact ⟨h.1, fun g => ih g (h.2 g trivial)⟩

/-- A request asks for itself only, whatever happens. -/
theorem onlyWhile_request {r : Request} (h : A r) : (request r).OnlyWhile M A := ⟨h, fun _ _ => trivial⟩

/-- Two programs in turn ask for what each of them may ask for, as long as nothing but the named moves happens. -/
theorem OnlyWhile.bind {f : α → Program β} (h : p.OnlyWhile M A) (hf : ∀ a, (f a).OnlyWhile M A) : (p >>= f).OnlyWhile M A := by
  induction p with
  | done a => exact hf a
  | ask r k ih => exact ⟨h.1, fun a ha => ih a (h.2 a ha)⟩
  | within d r k ih => exact ⟨h.1, fun a ha => ih (some a) (h.2.1 a ha), fun he => ih none (h.2.2 he)⟩
  | hold url vigil k ih => exact ⟨h.1, fun g hg => ih g (h.2 g hg)⟩

/-- What a program asks for now is among what it may ask for. -/
theorem OnlyWhile.asks (h : p.OnlyWhile M A) {r : Request} (ha : p.Asks r) : A r := by
  cases ha with
  | ask => exact h.1
  | within => exact h.1

/-- After any moves of the named kind a program still keeps to what it may ask for. -/
theorem OnlyWhile.of_trace (h : p.OnlyWhile M A) {ms : List Move} (ht : Trace p ms p') (hm : ∀ m ∈ ms, M m) : p'.OnlyWhile M A := by
  induction ht with
  | nil => exact h
  | cons hgoes _ ih =>
    obtain ⟨hfirst, hrest⟩ := List.forall_mem_cons.1 hm
    refine ih ?_ hrest
    cases hgoes with
    | ask a => exact h.2 a hfirst
    | within a => exact h.2.1 a hfirst
    | expire => exact h.2.2 hfirst
    | take g => exact h.2 g hfirst
    | listen | yield | woken => exact h

end Program

namespace Timed

variable {α β γ : Type} {A : Request → Prop}

/-! ## Timed work -/

/-- That timed work asks only for what it may, under any deadline. -/
def Only (A : Request → Prop) (t : Timed α) : Prop := ∀ deadline, (t.run deadline).Only A

/-- Work that does nothing asks for nothing. -/
theorem only_pure (a : α) : (pure a : Timed α).Only A := fun _ => trivial

/-- Neither does work that ends at once. -/
theorem only_halt (e : Halt) : (halt e : Timed α).Only A := fun _ => trivial

/-- Timed work continued by timed work asks for what each of them may ask for. -/
theorem Only.bind {t : Timed α} {f : α → Timed β} (h : t.Only A) (hf : ∀ a, (f a).Only A) : (t >>= f).Only A := by
  intro d
  rw [run_bind]
  refine (h d).bind ?_
  rintro (e | a)
  · trivial
  · exact hf a d

/-- Work without a deadline asks for what its program asks for. -/
theorem only_lift {p : Program α} (h : p.Only A) : (lift p).Only A := fun _ => h.bind fun _ => trivial

/-- A request under a deadline asks for itself only. -/
theorem only_request {r : Request} (h : A r) : (request r).Only A := by
  intro d
  cases d with
  | none => exact ⟨h, fun _ => trivial⟩
  | some d =>
    refine ⟨h, ?_⟩
    rintro (_ | a) <;> trivial

/-- A chain with one more step, where the sink may be told about failures. -/
theorem only_run_snoc {head : Chain Timed α β} {step : Step Timed β γ} {fallback : γ} {pipeline : String}
    (hreport : ∀ f, A (.report pipeline f)) {a : α} (hh : (head.run (Tick.sink pipeline) a).Only A)
    (hs : ∀ b, (step.apply b).Only A) : ((head.snoc step (pure fallback)).run (Tick.sink pipeline) a).Only A := by
  have hrecord : ∀ recorded failures, (Chain.record (Tick.sink pipeline) recorded failures).Only A := by
    intro recorded failures
    refine Only.bind ?_ fun _ => only_pure _
    rw [List.forM_eq_forM]
    induction failures with
    | nil => exact only_pure _
    | cons f fs ih =>
      rw [List.forM_cons]
      exact (only_lift (Program.only_request (hreport f))).bind fun _ => ih
  refine hh.bind ?_
  rintro ⟨_ | b, recorded⟩
  · exact only_pure _
  refine (hs b).bind fun r => ?_
  generalize r.attributedTo step.name = r'
  rcases r' with c | ⟨_ | c, failures⟩ | failures
  · exact only_pure _
  · exact (hrecord _ _).bind fun _ => only_pure _
  · exact (hrecord _ _).bind fun _ => only_pure _
  · exact (hrecord _ _).bind fun _ => only_pure _

end Timed

/-! ## Ticks -/

/-- Whether a request is one that the run of a tick makes. -/
def Request.ofTick : Request → Bool
  | .now | .service _ | .resolve _ | .fetch _ _ | .snapshot _ | .swap _ _ _ | .apply _ _ | .report _ _ => true
  | _ => false

namespace Tick

open Timed

/-- That timed work only asks for what the run of a tick asks for. -/
abbrev Ours {α : Type} (t : Timed α) : Prop := t.Only fun r => r.ofTick = true

/-- A request a tick makes is within the tick's own vocabulary. -/
theorem ours_request {r : Request} (h : r.ofTick = true) : Ours (Timed.request r) := only_request h

/-- Fetching resolves a secret and asks the service, both of which ticks may do. -/
theorem only_fetching (s : Service) : Ours (fetching.apply s) := by
  have hheaders : Ours (s.auth.headers fun name => Timed.request (.resolve name)) := by
    refine Timed.Only.bind ?_ fun _ => only_pure _
    cases s.auth with
    | none | basic username password | apiKey name value => exact only_pure _
    | vault name =>
      refine (ours_request (r := .resolve name) rfl).bind ?_
      rintro (_ | value) <;> exact only_pure _
  refine hheaders.bind ?_
  rintro (e | headers)
  · exact only_pure _
  · refine (ours_request (r := .fetch s.url headers) rfl).bind ?_
    rintro (reason | e | graph)
    · exact only_halt _
    · exact only_pure _
    · exact only_pure _

/-- Diffing looks up the entry and asks for nothing else. -/
theorem only_diffing (x : Option Fetched) : Ours (diffing.apply x) := by
  cases x with
  | none => exact only_pure _
  | some f =>
    refine (ours_request (r := .service f.service.url) rfl).bind ?_
    rintro (_ | current)
    · exact only_pure _
    · dsimp only
      split
      · exact only_pure _
      · have hnew : Ours (Timed.lift (Program.request (.snapshot f.graph))) := only_lift (Program.only_request rfl)
        exact hnew.bind fun _ => only_pure _

/-- Updating the registry asks for the swap of a snapshot and nothing else. -/
theorem only_updating {A : Request → Prop} (hswap : ∀ url old new, A (.swap url old new)) (x : Option Diffed) :
    (updating.apply x).Only A := by
  cases x with
  | none => exact only_pure _
  | some d =>
    refine (only_request (r := .swap d.url d.old d.new) (hswap _ _ _)).bind ?_
    rintro (e | old) <;> exact only_pure _

/-- Emitting asks for the application of a change set and nothing else. -/
theorem only_emitting {A : Request → Prop} (happly : ∀ url changes, A (.apply url changes)) (x : Option Diffed) :
    (emitting.apply x).Only A := by
  cases x with
  | none => exact only_pure _
  | some d =>
    show Timed.Only A (if d.changes.isEmpty then _ else _)
    split
    · exact only_pure _
    · refine (only_request (r := .apply d.url d.changes) (happly _ _)).bind ?_
      rintro (e | ⟨⟩) <;> exact only_pure _

/-- The whole pipeline, with its reports to the sink, keeps to a tick's vocabulary. -/
theorem only_pipeline (onlySubmodels : Bool) (s : Service) : Ours ((pipeline onlySubmodels).execute s) := by
  have hreport : ∀ f, Request.ofTick (.report pipelineName f) = true := fun _ => rfl
  have hfetch : Ours ((Chain.nil.snoc fetching (pure none)).run (sink pipelineName) s) :=
    only_run_snoc hreport (only_pure _) only_fetching
  have hpre : Ours ((fetchPipeline onlySubmodels).chain.run (sink pipelineName) s) := by
    cases onlySubmodels with
    | false => exact hfetch
    | true => exact only_run_snoc hreport hfetch fun _ => only_pure _
  have hemit : Ours ((pipeline onlySubmodels).chain.run (sink pipelineName) s) :=
    only_run_snoc hreport (only_run_snoc hreport (only_run_snoc hreport hpre only_diffing) (only_updating fun _ _ _ => rfl))
      (only_emitting fun _ _ => rfl)
  have hsink : (pipeline onlySubmodels).sink (pipeline onlySubmodels).name = sink pipelineName := by
    cases onlySubmodels <;> rfl
  unfold Pipeline.execute
  rw [hsink]
  exact Timed.Only.bind hemit fun _ => only_pure _

end Tick

/-- What a tick does with the guard of its service it does by the requests of a tick. -/
theorem Synchronizer.only_attempt (y : Synchronizer) (g : Guard) : (y.attempt g).Only fun r => r.ofTick = true := by
  have hrequest : ∀ {r : Request}, r.ofTick = true → (Program.request r).Only fun r => r.ofTick = true :=
    fun h => Program.only_request h
  refine (hrequest (r := .service g.url) rfl).bind ?_
  rintro (_ | service)
  · trivial
  · refine (hrequest (r := .now) rfl).bind fun start => ?_
    refine (Tick.only_pipeline y.onlySubmodels service _).bind ?_
    rintro ((_ | reason) | r) <;> trivial

/-- The run of a tick asks for nothing else before it gives the guard back. -/
theorem Synchronizer.only_runTick (y : Synchronizer) (g : Guard) :
    (y.runTick g).Only fun r => r.ofTick = true ∨ r = .unmark g ∨ r = .wake := by
  rw [runTick_eq]
  refine ((y.only_attempt g).mono fun _ => Or.inl).bind fun r => ?_
  exact ⟨Or.inr (Or.inl rfl), fun _ => ⟨Or.inr (Or.inr rfl), fun _ => trivial⟩⟩

/-! ## Permits -/

/-- Whether a request is about permits. -/
def Request.metered : Request → Bool
  | .queue | .permit _ | .leave => true
  | _ => false

/-- That a program does not ask for a permit, nor gives one back. -/
abbrev Program.Unmetered {α : Type} (p : Program α) : Prop := p.Only fun r => r.metered = false

/-- The requests of a tick are not about permits. -/
theorem Request.metered_of_ofTick {r : Request} (h : r.ofTick = true) : r.metered = false := by
  cases r with
  | queue | permit ticket | leave => nomatch h
  | _ => rfl

/-- A request that is no permit is unmetered. -/
theorem unmetered_request {r : Request} (h : r.metered = false) : (Program.request r).Unmetered := Program.only_request h

/-- Releasing a mark and waking whoever waits for it take no permit. -/
theorem unmetered_release (g : Guard) : (Program.release g).Unmetered := ⟨rfl, fun _ => ⟨rfl, fun _ => trivial⟩⟩

/-- A tick that has its mark takes no permit any more. -/
theorem Synchronizer.unmetered_runTick (y : Synchronizer) (g : Guard) : (y.runTick g).Unmetered := by
  refine (y.only_runTick g).mono ?_
  rintro r (h | rfl | rfl)
  · exact Request.metered_of_ofTick h
  · rfl
  · rfl

/-- A synchronization tries the mark, and takes no permit either. -/
theorem Synchronizer.unmetered_synchronize (y : Synchronizer) (url : AccessUrl) : (y.synchronize url).Unmetered := by
  refine (unmetered_request (r := .tryMark url) rfl).bind ?_
  rintro (_ | g)
  · trivial
  · exact (y.unmetered_runTick g).bind fun _ => trivial

/-- Unregistering takes no permit. -/
theorem unmetered_unregister (url : AccessUrl) : (unregister url).Unmetered := by
  have hcleanUp : (cleanUp url).Unmetered := by
    refine (unmetered_request (r := .remove url) rfl).bind ?_
    rintro (_ | service)
    · trivial
    · dsimp only
      split
      · trivial
      · refine (unmetered_request (r := .apply url _) rfl).bind ?_
        rintro (e | ⟨⟩) <;> trivial
  exact ⟨rfl, fun g => hcleanUp.bind fun r => (unmetered_release g).bind fun _ => trivial⟩

/-! ## Rounds -/

/-- Whether a request is one that a round makes, but for what it makes to unregister services. -/
def Request.ofRound : Request → Bool
  | .resolve _ | .advertised _ _ | .register _ | .services | .tryMark _ | .spawn _ | .join _ => true
  | _ => false

section

variable {M : Move → Prop} {A : Request → Prop}

/-- A discovery pass keeps to the vocabulary of rounds if its unregistrations do. -/
theorem onlyWhile_discover (hA : ∀ r, r.ofRound = true → A r) (hu : ∀ url, (unregister url).OnlyWhile M A) (registry : AccessUrl)
    (auth : AuthMethod) : (discover registry auth).OnlyWhile M A := by
  have hrequest : ∀ {r : Request}, r.ofRound = true → (Program.request r).OnlyWhile M A := fun h => Program.onlyWhile_request (hA _ h)
  have hheaders : Program.OnlyWhile M A (auth.headers fun name => Program.request (.resolve name)) := by
    refine Program.OnlyWhile.bind ?_ fun _ => trivial
    cases auth with
    | none | basic username password | apiKey name value => trivial
    | vault name =>
      refine (hrequest (r := .resolve name) rfl).bind ?_
      rintro (_ | value) <;> trivial
  have hregister : ∀ urls, (Discovery.registerNew registry auth urls).OnlyWhile M A := by
    intro urls
    induction urls with
    | nil => trivial
    | cons url rest ih => exact (hrequest (r := .register _) rfl).bind fun _ => ih.bind fun _ => trivial
  have hunregister : ∀ urls, (Discovery.unregisterAll urls).OnlyWhile M A := by
    intro urls
    induction urls with
    | nil => trivial
    | cons url rest ih => exact (hu url).bind fun _ => ih
  refine hheaders.bind ?_
  rintro (e | headers)
  · trivial
  refine (hrequest (r := .advertised registry headers) rfl).bind ?_
  rintro (e | urls)
  · trivial
  refine Program.OnlyWhile.bind ?_ fun _ => trivial
  refine (hregister _).bind fun added => (hrequest (r := .services) rfl).bind fun services => ?_
  exact (hunregister _).bind fun _ => trivial

namespace Scheduler

/-- Starting a tick in its own task is within the vocabulary of rounds. -/
theorem onlyWhile_startTick (hA : ∀ r, r.ofRound = true → A r) (url : AccessUrl) : (startTick url).OnlyWhile M A := by
  refine (Program.onlyWhile_request (r := .tryMark url) (hA _ rfl)).bind ?_
  rintro (_ | g)
  · trivial
  · exact (Program.onlyWhile_request (r := .spawn (.tick g)) (hA _ rfl)).bind fun _ => trivial

/-- So is waiting for it to end. -/
theorem onlyWhile_finishTick (hA : ∀ r, r.ofRound = true → A r) (task : Option Nat) : (finishTick task).OnlyWhile M A := by
  cases task with
  | none => trivial
  | some n =>
    refine (Program.onlyWhile_request (r := .join n) (hA _ rfl)).bind ?_
    rintro (reason | r) <;> trivial

/-- A round keeps to its vocabulary, the ticks being tasks of their own, if the unregistrations of its passes do. -/
theorem onlyWhile_runOnce (hA : ∀ r, r.ofRound = true → A r) (hu : ∀ url, (unregister url).OnlyWhile M A) (s : Scheduler) :
    s.runOnce.OnlyWhile M A := by
  have hdiscover : ∀ watched, (discoverAll watched).OnlyWhile M A := by
    intro watched
    induction watched with
    | nil => trivial
    | cons w rest ih => exact (onlyWhile_discover hA hu w.url w.auth).bind fun _ => ih
  have hstart : ∀ services, (startTicks services).OnlyWhile M A := by
    intro services
    induction services with
    | nil => trivial
    | cons service rest ih => exact (onlyWhile_startTick hA service.url).bind fun _ => ih.bind fun _ => trivial
  have hfinish : ∀ tasks, (finishTicks tasks).OnlyWhile M A := by
    intro tasks
    induction tasks with
    | nil => trivial
    | cons x rest ih => exact (onlyWhile_finishTick hA x.2).bind fun _ => ih.bind fun _ => trivial
  have hticks : Program.OnlyWhile M A (do finishTicks (← startTicks (← Program.request .services))) :=
    (Program.onlyWhile_request (r := .services) (hA _ rfl)).bind fun services => (hstart services).bind hfinish
  unfold runOnce
  split
  · exact (hdiscover _).bind fun _ => hticks
  · exact hticks

end Scheduler

end

/-- The requests of a round are not about permits. -/
theorem Request.metered_of_ofRound {r : Request} (h : r.ofRound = true) : r.metered = false := by
  cases r with
  | queue | permit ticket | leave => nomatch h
  | _ => rfl

/-- A discovery pass takes no permit. -/
theorem unmetered_discover (registry : AccessUrl) (auth : AuthMethod) : (discover registry auth).Unmetered :=
  (onlyWhile_discover (fun _ => Request.metered_of_ofRound) (fun url => (unmetered_unregister url).onlyWhile) registry auth).only

namespace Scheduler

/-- Nor does a round, whose ticks take theirs in tasks of their own. -/
theorem unmetered_runOnce (s : Scheduler) : s.runOnce.Unmetered :=
  (onlyWhile_runOnce (fun _ => Request.metered_of_ofRound) (fun url => (unmetered_unregister url).onlyWhile) s).only

/-- Nor does a registration, whose first tick takes its own. -/
theorem unmetered_register (service : Service) : (register service).Unmetered := by
  have hA : ∀ r : Request, r.ofRound = true → r.metered = false := fun _ => Request.metered_of_ofRound
  refine (unmetered_request (r := .register service) rfl).bind fun isNew => ?_
  split
  · exact (onlyWhile_startTick hA _).only.bind fun task => (onlyWhile_finishTick hA task).only.bind fun _ => trivial
  · trivial

end Scheduler

/-- The guard of the tick that a task is started for, if it is started for one. -/
def Origin.tick? : Origin → Option Guard
  | .job (.tick g) => some g
  | _ => none

/-- But for a tick in a task of its own nobody asks for a permit. -/
theorem Origin.unmetered (s : Scheduler) {origin : Origin} (h : origin.tick? = none) : (origin.program s).Unmetered := by
  rcases origin with op | g | _
  · cases op with
    | register service => exact (unmetered_request (r := .register service) rfl).bind fun _ => trivial
    | synchronize url =>
      refine (s.synchronizer.unmetered_synchronize url).bind ?_
      rintro (reason | outcome) <;> trivial
    | unregister url => exact (unmetered_unregister url).bind fun _ => trivial
    | discover registry auth => exact (unmetered_discover registry auth).bind fun _ => trivial
    | round => exact s.unmetered_runOnce.bind fun _ => trivial
    | schedule service => exact (Scheduler.unmetered_register service).bind fun _ => trivial
  · nomatch h
  · exact s.unmetered_runOnce.bind fun _ => trivial

end CatalogSync.Engine
