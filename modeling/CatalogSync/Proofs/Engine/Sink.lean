import CatalogSync.Proofs.Engine.Ledger
import CatalogSync.Proofs.Engine.Steadiness

/-!
# What the sink is told of a tick

A tick that comes to the end of its pipeline has told the sink about just the failures that it comes to, in their order, since a step
that failed without content leaves nothing for those after it to do. A tick that finds no service, and one that is abandoned, comes to
a failure that the sink is never told about (`Synchronizer.runTick_reports`).
-/

namespace CatalogSync.Engine

/-! ## What the sink was told -/

/-- What the sink was told in a deed. -/
def Deed.heard (d : Deed) : List (String × Failure) := (d.after.reports.drop d.before.reports.length).map Prod.snd

variable {w w' : World}

namespace Program

variable {α : Type}

variable {R : World → World → Prop} {p q : Program α} {ds : List Deed}

/-- What the sink was told by a program at work is what its moves report. -/
theorem Works.heard (h : Works R p w ds w' q) : ds.flatMap Deed.heard = (ds.map Deed.move).filterMap Move.report? := by
  induction h with
  | nil => rfl
  | @cons p p' q w v v' w' m ds hr hm _ ih =>
    have hone : Deed.heard ⟨v, m, v'⟩ = m.report?.toList := by
      unfold Deed.heard
      rw [hm.booked.reports, List.drop_left]
      cases m.report? <;> rfl
    rw [List.flatMap_cons, List.map_cons, List.filterMap_cons, hone, ih]
    cases m.report? <;> rfl

end Program

namespace Tick

open Timed

/-- That the sink was told about failures, and nothing was given up on. -/
structure Told (recorded : List Failure) (ms : List Move) : Prop where
  reported : ms.filterMap Move.report? = recorded.map (Prod.mk pipelineName)
  timely : ∀ r, .expired r ∉ ms

/-- That a tick ended early without having told the sink anything. -/
structure Untold (e : Halt) (ms : List Move) : Prop where
  reported : ms.filterMap Move.report? = []
  expired : e = .expired → ∃ r, .expired r ∈ ms

variable {ms : List Move} {recorded : List Failure} {α β γ : Type}

/-- At the start the sink was told nothing, and nothing has failed. -/
theorem told_nil : Told [] [] := ⟨rfl, fun _ => List.not_mem_nil⟩

/-- More moves that tell the sink about one more failure, or nothing. -/
theorem Told.concat (h : Told recorded ms) {m : Move} {fs : List Failure} (hm : m.report?.toList = fs.map (Prod.mk pipelineName))
    (he : ∀ r, m ≠ .expired r) : Told (recorded ++ fs) (ms ++ [m]) := by
  refine ⟨?_, fun r hr => ?_⟩
  · have hone : [m].filterMap Move.report? = m.report?.toList := by
      rw [List.filterMap_cons]
      cases m.report? <;> rfl
    rw [List.filterMap_append, h.reported, hone, hm, List.map_append]
  · rcases List.mem_append.1 hr with hr | hr
    · exact h.timely r hr
    · exact he r (List.mem_singleton.1 hr).symm

/-- Asking for something else. -/
theorem Told.ask (h : Told recorded ms) {r : Request} (hr : ∀ pipeline f, r ≠ .report pipeline f) (a : r.Answer) :
    Told recorded (ms ++ [.answered r a]) := by
  have hnone : (Move.answered r a).report? = none := by
    unfold Move.report?
    split
    · rename_i pipeline f _ hm
      cases hm
      exact absurd rfl (hr pipeline f)
    · rfl
  have hquiet : (Move.answered r a).report?.toList = ([] : List Failure).map (Prod.mk pipelineName) := by rw [hnone]; rfl
  have ht := h.concat hquiet nofun
  rwa [List.append_nil] at ht

/-- Where nothing was told before, a request may be given up on. -/
theorem told_request (h : Told [] ms) {r : Request} (hr : ∀ pipeline f, r ≠ .report pipeline f) :
    (Timed.request r).Meets anything ms (fun _ ms => Told [] ms) Untold := by
  refine meets_request ⟨trivial, fun a _ => h.ask hr a, ?_, fun _ => ⟨r, List.mem_append_right _ (List.mem_singleton_self _)⟩⟩
  rw [List.filterMap_append, h.reported]
  rfl

/-- Failures are reported as they are recorded. -/
theorem told_record {E : Halt → List Move → Prop} (h : Told recorded ms) (failures : List Failure) :
    (Chain.record (sink pipelineName) recorded failures).Meets anything ms
      (fun fs ms => fs = recorded ++ failures ∧ Told fs ms) E := by
  have hforM : (failures.forM (sink pipelineName)).Meets anything ms (fun _ ms => Told (recorded ++ failures) ms) E := by
    rw [List.forM_eq_forM]
    induction failures generalizing recorded ms with
    | nil => exact meets_pure (by rwa [List.append_nil])
    | cons f fs ih =>
      rw [List.forM_cons]
      have hreport : (Program.request (.report pipelineName f)).Meets anything ms fun _ ms => Told (recorded ++ [f]) ms :=
        ⟨trivial, fun _ _ => h.concat rfl nofun, trivial⟩
      refine (meets_lift hreport).seq fun _ ms hf => ?_
      have hrest := ih hf
      rwa [List.append_assoc] at hrest
  exact hforM.seq fun _ _ ht => meets_pure ⟨rfl, ht⟩

/-- What a run leads to: the sink was told what is recorded, and where there is still something to do, that is nothing. -/
structure Carried (live : β → Prop) (x : Option β × List Failure) (ms : List Move) : Prop where
  told : Told x.2 ms
  live : ∀ b, x.1 = some b → live b → x.2 = []

/-- A step that tells the sink nothing itself, and leaves something to do only where nothing has failed. -/
def Leads (live : γ → Prop) (recorded : List Failure) (r : Outcome γ) (ms : List Move) : Prop :=
  Told recorded ms ∧ ∀ c, r.content? = some c → live c → recorded = [] ∧ r.failures = []

/-! ## The steps of a pipeline -/

/-- A chain with one more step leads to where the step leads from where the chain leads. -/
theorem told_run_snoc {I : β → Prop} {J : Option γ → Prop} {head : Chain Timed α β} {step : Step Timed β (Option γ)} {a : α}
    (hnone : ¬J none) (hh : (head.run (sink pipelineName) a).Meets anything ms (Carried I) Untold)
    (hs : ∀ b recorded ms, Told recorded ms → (I b → recorded = []) →
      (step.apply b).Meets anything ms (Leads J recorded) Untold) :
    ((head.snoc step (pure none)).run (sink pipelineName) a).Meets anything ms (Carried J) Untold := by
  refine hh.seq ?_
  rintro ⟨_ | b, recorded⟩ ms ⟨htold, hlive⟩
  · exact meets_pure ⟨htold, nofun⟩
  refine (hs b recorded ms htold (hlive b rfl)).seq ?_
  rintro (c | ⟨_ | c, failures⟩ | failures) ms ⟨htold, hlive'⟩
  · refine meets_pure ⟨htold, ?_⟩
    rintro _ ⟨⟩ hc
    exact (hlive' c rfl hc).1
  · refine (told_record htold _).seq ?_
    rintro _ ms ⟨rfl, ht⟩
    refine meets_pure ⟨ht, ?_⟩
    rintro _ ⟨⟩ hc
    exact absurd hc hnone
  · refine (told_record htold _).seq ?_
    rintro _ ms ⟨rfl, ht⟩
    refine meets_pure ⟨ht, ?_⟩
    rintro _ ⟨⟩ hc
    obtain ⟨rfl, hf⟩ := hlive' c rfl hc
    obtain rfl : failures = [] := hf
    rfl
  · refine (told_record htold _).seq ?_
    rintro _ ms ⟨rfl, ht⟩
    exact meets_pure ⟨ht, nofun⟩

/-- A step that does nothing. -/
theorem leads_dropped {live : Option γ → Prop} (h : Told recorded ms) (hnone : ¬live none) :
    Leads live recorded (.success none) ms := by
  refine ⟨h, ?_⟩
  rintro _ ⟨⟩ hc
  exact absurd hc hnone

/-- A step that succeeds where nothing has failed. -/
theorem leads_success {live : γ → Prop} (h : Told [] ms) (c : γ) : Leads live [] (.success c) ms := ⟨h, fun _ _ _ => ⟨rfl, rfl⟩⟩

/-- A step that fails leaves nothing to do. -/
theorem leads_failed {live : Option γ → Prop} (h : Told [] ms) (e : SyncError) : Leads live [] (failed e) ms := by
  refine ⟨h, ?_⟩
  unfold failed Outcome.ofFailure
  split <;> exact nofun

/-- That a step has something to work on. -/
abbrev Live (x : Option β) : Prop := x.isSome = true

/-! ## The pipeline of a tick -/

/-- Building the headers tells the sink nothing. -/
theorem told_headers (h : Told [] ms) (auth : AuthMethod) :
    Timed.Meets anything (auth.headers fun name => Timed.request (.resolve name)) ms (fun _ ms => Told [] ms) Untold := by
  refine Timed.Meets.seq (Q := fun _ ms => Told [] ms) ?_ fun _ _ ht => meets_pure ht
  cases auth with
  | none | basic username password | apiKey name value => exact meets_pure h
  | vault name =>
    refine (told_request (r := .resolve name) h nofun).seq ?_
    rintro (_ | value) ms ht
    · exact meets_pure ht
    · exact meets_pure ht

/-- Fetching tells it nothing itself, and has something to hand on only if nothing failed. -/
theorem told_fetching (s : Service) (h : Told [] ms) :
    Timed.Meets anything (fetching.apply s) ms (Leads Live []) Untold := by
  refine (told_headers h s.auth).seq ?_
  rintro (e | headers) ms ht
  · exact meets_pure (leads_failed ht e)
  · refine (told_request (r := .fetch s.url headers) ht nofun).seq ?_
    rintro (reason | e | graph) ms ht
    · exact meets_halt ⟨ht.reported, nofun⟩
    · exact meets_pure (leads_failed ht _)
    · exact meets_pure (leads_success ht _)

/-- So does restricting. -/
theorem told_restricting (kinds : List ResourceKind) (x : Option Fetched) (h : Told recorded ms) (hx : Live x → recorded = []) :
    Timed.Meets anything ((restricting kinds).apply x) ms (Leads Live recorded) Untold := by
  refine meets_pure ⟨h, ?_⟩
  rintro _ ⟨⟩ hc
  exact ⟨hx ((Option.isSome_map ..).symm.trans hc), rfl⟩

/-- So does diffing. -/
theorem told_diffing (x : Option Fetched) (h : Told recorded ms) (hx : Live x → recorded = []) :
    Timed.Meets anything (diffing.apply x) ms (Leads Live recorded) Untold := by
  cases x with
  | none => exact meets_pure (leads_dropped h nofun)
  | some f =>
    obtain rfl := hx rfl
    refine (told_request (r := .service f.service.url) h nofun).seq ?_
    rintro (_ | current) ms ht
    · exact meets_pure (leads_failed ht _)
    · dsimp only
      split
      · exact meets_pure (leads_failed ht _)
      · have hnew : (Program.request (.snapshot f.graph)).Meets anything ms fun _ ms => Told [] ms :=
          ⟨trivial, fun a _ => ht.ask (r := .snapshot f.graph) nofun a, trivial⟩
        exact (meets_lift hnew).seq fun _ _ ht => meets_pure (leads_success ht _)

/-- So does updating. -/
theorem told_updating (x : Option Diffed) (h : Told recorded ms) (hx : Live x → recorded = []) :
    Timed.Meets anything (updating.apply x) ms (Leads Live recorded) Untold := by
  cases x with
  | none => exact meets_pure (leads_dropped h nofun)
  | some d =>
    obtain rfl := hx rfl
    refine (told_request (r := .swap d.url d.old d.new) h nofun).seq ?_
    rintro (e | old) ms ht
    · exact meets_pure (leads_failed ht _)
    · exact meets_pure (leads_success ht _)

/-- The last step may fail with content, and nothing is left to do after it. -/
theorem told_emitting (x : Option Diffed) (h : Told recorded ms) (hx : Live x → recorded = []) :
    Timed.Meets anything (emitting.apply x) ms (Leads (fun _ => False) recorded) Untold := by
  have hlast : ∀ {r : Outcome (Option ResourceChanges)} {recorded ms}, Told recorded ms → Leads (fun _ => False) recorded r ms :=
    fun ht => ⟨ht, fun _ _ => False.elim⟩
  cases x with
  | none => exact meets_pure (hlast h)
  | some d =>
    obtain rfl := hx rfl
    show Timed.Meets _ (if d.changes.isEmpty then _ else _) _ _ _
    split
    · exact meets_pure (hlast h)
    · refine (told_request (r := .apply d.url d.changes) h nofun).seq ?_
      rintro (e | ⟨⟩) ms ht
      · exact meets_pure (hlast ht)
      · exact meets_pure (hlast ht)

/-- The failures of a chain's outcome are those it recorded. -/
theorem failures_outcome {β : Type} (x : Option β × List Failure) : (Chain.outcome x).failures = x.2 := by
  rcases x with ⟨_ | b, _ | ⟨f, fs⟩⟩ <;> rfl

/-- A tick that comes to the end of its pipeline has told the sink about the failures that it comes to. -/
theorem told_pipeline (onlySubmodels : Bool) (s : Service) (h : Told [] ms) :
    Timed.Meets anything ((pipeline onlySubmodels).execute s) ms (fun r ms => Told r.failures ms) Untold := by
  have hstart : Timed.Meets anything (Chain.nil.run (sink pipelineName) s) ms (Carried fun _ => True) Untold :=
    meets_pure ⟨h, fun _ _ _ => rfl⟩
  have hfetch := told_run_snoc (J := Live) nofun hstart fun s recorded ms ht hs => by
    obtain rfl := hs trivial
    exact told_fetching s ht
  have hpre : Timed.Meets anything ((fetchPipeline onlySubmodels).chain.run (sink pipelineName) s) ms (Carried Live) Untold := by
    cases onlySubmodels with
    | false => exact hfetch
    | true => exact told_run_snoc nofun hfetch fun x _ _ => told_restricting _ x
  have hdiff := told_run_snoc (J := Live) nofun hpre fun x _ _ => told_diffing x
  have hupdate := told_run_snoc (J := Live) nofun hdiff fun x _ _ => told_updating x
  have hemit := told_run_snoc (fun h => h) hupdate fun x _ _ => told_emitting x
  have hsink : (pipeline onlySubmodels).sink (pipeline onlySubmodels).name = sink pipelineName := by
    cases onlySubmodels <;> rfl
  unfold Pipeline.execute
  rw [hsink]
  refine Timed.Meets.seq hemit fun x ms hx => meets_pure ?_
  rw [failures_outcome]
  exact hx.told

/-- What the sink is told of a tick, given its moves and what it comes to. -/
inductive Heard (url : AccessUrl) (timeout : Nat) : List Move → Except String TickResult → List (String × Failure) → Prop where
  /-- The tick came to the end of its pipeline, and the sink was told about every failure. -/
  | completed {service : Service} {ms : List Move} {r : TickResult} (h : ∀ q, .expired q ∉ ms) :
    Heard url timeout (.answered (.service url) (some service) :: ms) (.ok r) (r.failures.map (Prod.mk pipelineName))
  /-- There was no service, and the sink was not told. -/
  | missing {ms : List Move} : Heard url timeout (.answered (.service url) none :: ms) (.ok (notRegistered url)) []
  /-- The tick was abandoned, and the sink was not told. -/
  | abandoned {service : Service} {ms : List Move} {q : Request} (h : .expired q ∈ ms) :
    Heard url timeout (.answered (.service url) (some service) :: ms) (.ok (abandoned timeout)) []
  /-- The client crashed, and the tick came to nothing. -/
  | crashed {service : Service} {ms : List Move} (reason : String) :
    Heard url timeout (.answered (.service url) (some service) :: ms) (.error reason) []

end Tick

namespace Synchronizer

open Tick

/-! ## Ticks -/

/-- A pipeline that ends has told the sink about each of its failures; one that is abandoned or crashes, about none. -/
theorem told_runPipeline (y : Synchronizer) (service : Service) {ms : List Move} (h : Told [] ms) :
    (y.runPipeline service).Meets anything ms fun x ms => (∃ r, x = .ok r ∧ Told r.failures ms) ∨
      (x = .ok (abandoned y.timeout) ∧ Untold .expired ms) ∨ ∃ reason, x = .error reason ∧ Untold (.crashed reason) ms := by
  have hnow : (Program.request .now).Meets anything ms fun _ ms => Told [] ms :=
    ⟨trivial, fun a _ => h.ask (r := .now) nofun a, trivial⟩
  refine hnow.seq fun start ms ht => ?_
  refine (told_pipeline y.onlySubmodels service ht (some (start + y.timeout))).seq ?_
  rintro ((_ | reason) | r) ms hr
  · exact Or.inr (Or.inl ⟨rfl, hr⟩)
  · exact Or.inr (Or.inr ⟨reason, rfl, hr⟩)
  · exact Or.inl ⟨r, rfl, hr⟩

/-- A tick that comes to the end of its pipeline, however long it takes and whatever others do meanwhile, has told the sink about
exactly the failures that it comes to, in their order. Of a tick that finds no service, and of one that is abandoned, the sink is told
nothing. -/
theorem runTick_reports (y : Synchronizer) {g : Guard} {R : World → World → Prop} {w w' : World} {ds : List Deed}
    {result : Except String TickResult} (h : (y.runTick g).Works R w ds w' (.done result)) :
    Heard g.url y.timeout (ds.map Deed.move) result (ds.flatMap Deed.heard) := by
  have htrace := h.trace
  rw [runTick_eq] at htrace
  obtain ⟨ms₁, ms₂, x, hms, hattempt, hrest⟩ := htrace.bind
  obtain ⟨entry, ms, rfl, hpipeline⟩ := hattempt.of_ask
  rcases hrest.of_release with ⟨rfl, hx⟩ | ⟨_, _, hx, _⟩
  · obtain rfl := Program.done.inj hx
    have hreported : ds.flatMap Deed.heard = ms.filterMap Move.report? := by
      have hrelease : [Move.answered (.unmark g) (), .answered .wake ()].filterMap Move.report? = [] := rfl
      rw [h.heard, hms, List.filterMap_append, hrelease, List.append_nil]
      rfl
    rw [hms, hreported]
    cases entry with
    | none =>
      obtain ⟨rfl, rfl⟩ := hpipeline.of_done
      exact .missing
    | some service =>
      have hends := (y.told_runPipeline service told_nil).ends hpipeline fun m _ => by cases m <;> trivial
      rcases hends with ⟨r, rfl, ht⟩ | ⟨rfl, hu⟩ | ⟨reason, rfl, hu⟩
      · rw [List.nil_append] at ht
        rw [ht.reported]
        exact .completed (by simpa using ht.timely)
      · rw [List.nil_append] at hu
        obtain ⟨q, hq⟩ := hu.expired rfl
        rw [hu.reported]
        exact .abandoned (List.mem_append_left _ hq)
      · rw [List.nil_append] at hu
        rw [hu.reported]
        exact .crashed reason
  · nomatch hx

/-- The failures that a tick came to, if it is done and did not crash. -/
def failures? (p : Program (Except String TickResult)) : Option (List Failure) :=
  match p with
  | .done (.ok r) => some r.failures
  | _ => none

/-- Cues lead to a tick that comes to the failures which are computed of it, with what the sink is told meanwhile. -/
theorem exists_heard {y : Synchronizer} {g : Guard} {w : World} {cues : List (Nat × Cue)} {told : List (String × Failure)}
    {reports : List (Nat × String × Failure)} {fs : List Failure} (h : ((y.runTick g).work? w cues).map (fun x =>
      (x.1.flatMap Deed.heard, x.2.1.reports, failures? x.2.2)) = some (told, reports, some fs)) :
    ∃ ds w' r, (y.runTick g).Works World.Passes w ds w' (.done (.ok r)) ∧ ds.flatMap Deed.heard = told ∧ w'.reports = reports ∧
      r.failures = fs := by
  obtain ⟨⟨ds, w', q⟩, hx, hf⟩ := Option.map_eq_some_iff.1 h
  obtain ⟨htold, hreports, hfs⟩ : _ ∧ _ ∧ _ := by simpa only [Prod.mk.injEq] using hf
  unfold failures? at hfs
  split at hfs
  · rename_i r
    exact ⟨ds, w', r, Program.works_of_work? hx fun v n => ⟨n, rfl⟩, htold, hreports, Option.some.inj hfs⟩
  · nomatch hfs

/-- The catalog refuses the changes of a tick: the sink is told about the one failure that the tick comes to. -/
theorem runTick_reports_refusal :
    let url : AccessUrl := ⟨"http://host"⟩
    let y : Synchronizer := ⟨false, 1000⟩
    let w : World := { World.initial (.ofNat 1) with
      registry := ⟨[(url, .fresh url)]⟩, inFlight := [url], guards := [⟨0, url⟩], guardCount := 1 }
    let f : Failure := ⟨.warning, some "emitting", "Catalog update failed: Catalog unavailable: offline"⟩
    ∃ ds w' r, (y.runTick ⟨0, url⟩).Works World.Passes w ds w' (.done (.ok r)) ∧ w'.reports = [(7, "service-sync", f)] ∧
      r.failures = [f] ∧ Heard url y.timeout (ds.map Deed.move) (.ok r) [("service-sync", f)] := by
  intro url y w f
  let cues : List (Nat × Cue) := [(0, .go), (0, .go), (0, .fetched (.ok (.ok ⟨[.root .submodel "sm" .null]⟩))), (0, .go), (0, .go),
    (0, .go), (7, .refused (.unavailable "offline")), (0, .go), (0, .go), (0, .go)]
  obtain ⟨ds, w', r, hw, hheard, hreports, hfs⟩ : ∃ ds w' r, (y.runTick ⟨0, url⟩).Works World.Passes w ds w' (.done (.ok r)) ∧
      ds.flatMap Deed.heard = [("service-sync", f)] ∧ w'.reports = [(7, "service-sync", f)] ∧ r.failures = [f] :=
    exists_heard (by decide +kernel +zetaReduce : ((y.runTick ⟨0, url⟩).work? w cues).map _ = _)
  have hr := y.runTick_reports hw
  rw [hheard] at hr
  exact ⟨ds, w', r, hw, hreports, hfs, hr⟩

/-- A tick of a service that is not registered fails, and so does one that takes too long, but the sink is told nothing: the failures of
a tick need not be those that the sink was told about. -/
theorem runTick_reports_nothing :
    let url : AccessUrl := ⟨"https://a/"⟩
    let y : Synchronizer := ⟨false, 50⟩
    let w : World := { World.initial (.ofNat 1) with inFlight := [url], guards := [⟨0, url⟩], guardCount := 1 }
    let v : World := { w with registry := ⟨[(url, .fresh url)]⟩ }
    (∃ ds w' r, (y.runTick ⟨0, url⟩).Works World.Passes w ds w' (.done (.ok r)) ∧ ds.flatMap Deed.heard = [] ∧ w'.reports = [] ∧
      r.failures = [⟨.warning, none, "Registry error: Service https://a/ is not registered"⟩]) ∧
    ∃ ds v' r, (y.runTick ⟨0, url⟩).Works World.Passes v ds v' (.done (.ok r)) ∧ ds.flatMap Deed.heard = [] ∧ v'.reports = [] ∧
      r.failures = [⟨.warning, none, "tick abandoned after 50ms"⟩] := by
  intro url y w v
  let missing : List (Nat × Cue) := [(0, .go), (0, .go), (0, .go)]
  let late : List (Nat × Cue) := [(0, .go), (0, .go), (50, .expire), (0, .go), (0, .go)]
  exact ⟨exists_heard (by decide +kernel +zetaReduce : ((y.runTick ⟨0, url⟩).work? w missing).map _ = _),
    exists_heard (by decide +kernel +zetaReduce : ((y.runTick ⟨0, url⟩).work? v late).map _ = _)⟩

end Synchronizer

end CatalogSync.Engine
