import CatalogSync.Proofs.Engine.Weave

/-!
# What changes are handed to the catalog for

Nobody hands changes for a URL to the catalog without a reason of its own: the task has just found the entry of the URL in the
registry and since then at most stored a snapshot there, or it has just taken the entry out, and then the changes are what there is
to remove for it. Such a reason is a `Warrant`, and the calculus `warranted` keeps track of it. No step makes a task act
without one (`State.Step.warranted`).
-/

namespace CatalogSync.Engine

/-! ## Warrants -/

/-- What a task may hand changes for a URL to the catalog for. -/
inductive Warrant where
  /-- Nothing. -/
  | none
  /-- The task found the entry of the URL. -/
  | entry
  /-- The task took the entry of the URL out, which was the given one. -/
  | removal (service : Service)

namespace Warrant

/-- Which changes may be handed to the catalog: any for an entry, and what there is to remove for one taken out. -/
def Covers : Warrant → ResourceChanges → Prop
  | none, _ => False
  | entry, _ => True
  | removal service, changes => changes = cleanupOf service

/-- The warrant after a request that leaves an entry where it is and cannot tell that it is gone. -/
def lasting : Warrant → Warrant
  | entry => entry
  | none | removal _ => none

end Warrant

/-- The warrant of a task for a URL after a move. -/
def Move.warrant (url : AccessUrl) (before : Warrant) : Move → Warrant
  | .answered (.service u) (some _) => if u = url then .entry else .none
  | .answered (.remove u) (some service) => if u = url then .removal service else .none
  | .answered (.snapshot _) _ | .answered (.swap _ _ _) _ | .answered (.report _ _) _ => before.lasting
  | _ => .none

/-- The warrant of a task for a URL after what it did so far. -/
def Task.warrant (url : AccessUrl) (t : Task) : Warrant := t.moves.foldl (Move.warrant url) .none

/-- Handing changes for a URL to the catalog with a warrant only. -/
def warranted (url : AccessUrl) : Calculus Warrant where
  ask before r K E := (∀ changes, r = .apply url changes → before.Covers changes) ∧
    (∀ a, K a ((Move.answered r a).warrant url before)) ∧ E .none
  hold _ _ K := ∀ g, K g .none
  ask_mono := by
    intro before r K K' E E' hK hE h
    exact ⟨h.1, fun a => hK a _ (h.2.1 a), hE _ h.2.2⟩
  hold_mono := by
    intro before u K K' hK h g
    exact hK g _ (h g)

variable {url : AccessUrl}

namespace Program

variable {α β : Type}

/-! ## Programs with a warrant -/

/-- That a program hands changes for a URL to the catalog with a warrant only, and needs none to begin with. -/
def Warranted (url : AccessUrl) (p : Program α) : Prop := ∀ before, p.Meets (Engine.warranted url) before fun _ _ => True

/-- What asks for nothing more needs no warrant. -/
theorem warranted_done (a : α) : (done a).Warranted url := fun _ => trivial

/-- Asking for anything but to apply changes. -/
theorem warranted_request {r : Request} (h : ∀ u changes, r ≠ .apply u changes) : (request r).Warranted url :=
  fun _ => ⟨fun changes he => absurd he (h url changes), fun _ => trivial, trivial⟩

/-- Two programs that need no warrant to begin with need none in turn. -/
theorem Warranted.bind {p : Program α} {f : α → Program β} (h : p.Warranted url) (hf : ∀ a, (f a).Warranted url) :
    (p >>= f).Warranted url :=
  fun before => (h before).seq fun a after _ => hf a after

/-- What is left of a program after a move meets the condition with the warrant after it. -/
theorem Meets.warrant {p p' : Program α} {m : Move} {before : Warrant} {Q : α → Warrant → Prop}
    (h : p.Meets (Engine.warranted url) before Q) (hm : Goes p m p') :
    p'.Meets (Engine.warranted url) (m.warrant url before) Q := by
  cases hm with
  | ask a => exact h.2.1 a
  | within a => exact h.2.1 a
  | expire => exact h.2.2
  | take g => exact h g
  | listen | yield | woken => exact h

/-- Whoever is about to hand changes to the catalog has a warrant for them. -/
theorem Meets.covers {p : Program α} {before : Warrant} {Q : α → Warrant → Prop} (h : p.Meets (Engine.warranted url) before Q)
    {changes : ResourceChanges} (ha : p.Asks (.apply url changes)) : before.Covers changes := by
  cases ha with
  | ask => exact h.1 changes rfl
  | within => exact h.1 changes rfl

end Program

namespace Tick

open Timed

/-! ## The steps of a tick -/

/-- Timed work that hands changes for the URL to the catalog with a warrant only, and what warrant it ends with. -/
abbrev Warranted (url : AccessUrl) {α : Type} (t : Timed α) (before : Warrant) (Q : α → Warrant → Prop) : Prop :=
  t.Meets (Engine.warranted url) before Q fun _ _ => True

/-- Asking for anything but to apply changes. -/
theorem warranted_request {r : Request} {before : Warrant} {Q : r.Answer → Warrant → Prop}
    (h : ∀ u changes, r ≠ .apply u changes) (hQ : ∀ a, Q a ((Move.answered r a).warrant url before)) :
    Warranted url (Timed.request r) before Q :=
  meets_request ⟨fun changes he => absurd he (h url changes), hQ, trivial⟩

/-- Telling the sink about a failure leaves the entry of a URL where it is. -/
theorem silent_warranted {A : Warrant → Prop} (hA : ∀ w, A w → A w.lasting) : (Engine.warranted url).Silent A :=
  fun before h _ _ => ⟨nofun, fun _ => hA before h, trivial⟩

/-- That there is an entry for what was compared with it. -/
def Covered (url : AccessUrl) (x : Option Diffed) (w : Warrant) : Prop := ∀ d, x = some d → d.url = url → w = .entry

/-- If nothing was compared, there is nothing to cover. -/
theorem covered_none (w : Warrant) : Covered url none w := nofun

/-- A warrant that covers an entry lasts. -/
theorem Covered.lasting {x : Option Diffed} {w : Warrant} (h : Covered url x w) : Covered url x w.lasting := by
  intro d hx hd
  rw [h d hx hd]
  rfl

variable {before : Warrant}

/-- Building the headers hands nothing to the catalog. -/
theorem warranted_headers (auth : AuthMethod) :
    Warranted url (auth.headers fun name => Timed.request (.resolve name)) before fun _ _ => True := by
  refine Timed.Meets.seq (Q := fun _ _ => True) ?_ fun _ _ _ => meets_pure trivial
  cases auth with
  | none | basic username password | apiKey name value => exact meets_pure trivial
  | vault name =>
    have hresolve : Warranted url (Timed.request (.resolve name)) before fun _ _ => True :=
      warranted_request nofun fun _ => trivial
    refine hresolve.seq ?_
    rintro (_ | value) w -
    · exact meets_pure trivial
    · exact meets_pure trivial

/-- Nor does fetching. -/
theorem warranted_fetching (service : Service) : Warranted url (fetching.apply service) before fun _ _ => True := by
  refine (warranted_headers service.auth).seq ?_
  rintro (e | headers) w -
  · exact meets_pure trivial
  · have hfetch : Warranted url (Timed.request (.fetch service.url headers)) w fun _ _ => True :=
      warranted_request nofun fun _ => trivial
    refine hfetch.seq ?_
    rintro (reason | e | graph) w -
    · exact meets_halt trivial
    · exact meets_pure trivial
    · exact meets_pure trivial

/-- A failed step leaves nothing for which there would have to be an entry. -/
theorem staged_failed (e : SyncError) (step : String) (recorded : List Failure) (w : Warrant) :
    Staged (fun x _ => Covered url x) (fun _ _ => True) step recorded none (failed e) w := by
  unfold failed Outcome.ofFailure
  split
  · trivial
  · exact covered_none w

/-- What is compared with an entry was found there. -/
theorem warranted_diffing (x : Option Fetched) (step : String) (recorded : List Failure) :
    Warranted url (diffing.apply x) before (Staged (fun x _ => Covered url x) (fun _ _ => True) step recorded none) := by
  cases x with
  | none => exact meets_pure (covered_none before)
  | some f =>
    have hentry : Warranted url (Timed.request (.service f.service.url)) before
        fun a w => ∀ current, a = some current → f.service.url = url → w = .entry := by
      refine warranted_request nofun ?_
      rintro (_ | current) _ ⟨⟩ hu
      exact if_pos hu
    refine hentry.seq ?_
    rintro (_ | current) w hw
    · exact meets_pure (staged_failed _ step recorded w)
    · dsimp only
      split
      · exact meets_pure (staged_failed _ step recorded w)
      · rename_i changes _
        have hnew : (Program.request (.snapshot f.graph)).Meets (Engine.warranted url) w
            fun new w => Covered url (some ⟨f.service.url, current.snapshot, new, changes⟩) w := by
          refine ⟨nofun, fun new d hd hu => ?_, trivial⟩
          cases hd
          show w.lasting = .entry
          rw [hw current rfl hu]
          rfl
        exact (meets_lift hnew).seq fun _ _ hd => meets_pure hd

/-- Storing a snapshot leaves the entry where it is. -/
theorem warranted_updating {x : Option Diffed} (h : Covered url x before) (step : String) (recorded : List Failure) :
    Warranted url (updating.apply x) before (Staged (fun x _ => Covered url x) (fun _ _ => True) step recorded none) := by
  cases x with
  | none => exact meets_pure (covered_none before)
  | some d =>
    have hswap : Warranted url (Timed.request (.swap d.url d.old d.new)) before fun _ w => Covered url (some d) w :=
      warranted_request nofun fun _ => h.lasting
    refine hswap.seq ?_
    rintro (e | old) w hw
    · exact meets_pure (staged_failed _ step recorded w)
    · exact meets_pure hw

/-- Emitting hands over changes for an entry that there is. -/
theorem warranted_emitting {x : Option Diffed} (h : Covered url x before) :
    Warranted url (emitting.apply x) before fun _ _ => True := by
  cases x with
  | none => exact meets_pure trivial
  | some d =>
    show Warranted url (if d.changes.isEmpty then _ else _) _ _
    split
    · exact meets_pure trivial
    · have happly : Warranted url (Timed.request (.apply d.url d.changes)) before fun _ _ => True := by
        refine meets_request ⟨fun changes he => ?_, fun _ => trivial, trivial⟩
        obtain ⟨hu, rfl⟩ := Request.apply.inj he
        rw [h d rfl hu]
        trivial
      refine happly.seq ?_
      rintro (e | ⟨⟩) w -
      · exact meets_pure trivial
      · exact meets_pure trivial

/-- A step after which nothing has to be known of the entry. -/
theorem warranted_run_snoc {α β γ : Type} {I : β → List Failure → Warrant → Prop} {head : Chain Timed α β}
    {step : Step Timed β (Option γ)} {a : α}
    (hh : (head.run (sink pipelineName) a).Meets (Engine.warranted url) before (Ended I fun _ _ => True) fun _ _ => True)
    (hs : ∀ b recorded w, I b recorded w → Warranted url (step.apply b) w fun _ _ => True) :
    ((head.snoc step (pure none)).run (sink pipelineName) a).Meets (Engine.warranted url) before
      (Ended (fun _ _ _ => True) fun _ _ => True) fun _ _ => True := by
  have hsilent : (Engine.warranted url).Silent fun _ => True := silent_warranted fun _ _ => trivial
  refine meets_run_snoc (fun _ _ => hsilent) (fun _ => hsilent) hh fun b recorded w hb => (hs b recorded w hb).mono ?_
  rintro (c | ⟨c, failures⟩ | failures) w -
  · trivial
  · trivial
  · trivial

/-- The steps of a tick hand changes to the catalog for an entry that the tick found. -/
theorem warranted_pipeline (onlySubmodels : Bool) (service : Service) :
    Warranted url ((pipeline onlySubmodels).execute service) before fun _ _ => True := by
  have hsilent (x : Option Diffed) : (Engine.warranted url).Silent (Covered url x) := silent_warranted fun _ h => h.lasting
  have hsilent' : (Engine.warranted url).Silent fun _ => True := silent_warranted fun _ _ => trivial
  have hstart : (Chain.nil.run (sink pipelineName) service).Meets (Engine.warranted url) before
      (Ended (fun _ _ _ => True) fun _ _ => True) fun _ _ => True := meets_run_nil (I := fun _ _ _ => True) _ trivial
  have hfetch := warranted_run_snoc hstart fun service _ _ _ => warranted_fetching service
  have hpre : ((fetchPipeline onlySubmodels).chain.run (sink pipelineName) service).Meets (Engine.warranted url) before
      (Ended (fun _ _ _ => True) fun _ _ => True) fun _ _ => True := by
    cases onlySubmodels with
    | false => exact hfetch
    | true => exact warranted_run_snoc hfetch fun _ _ _ _ => meets_pure trivial
  have hdiff := meets_run_snoc (fun x _ => hsilent x) (fun _ => hsilent') hpre
    fun x recorded _ _ => warranted_diffing x diffing.name recorded
  have hupdate := meets_run_snoc (fun x _ => hsilent x) (fun _ => hsilent') hdiff
    fun _ recorded _ hx => warranted_updating hx updating.name recorded
  have hemit := warranted_run_snoc hupdate fun _ _ _ hx => warranted_emitting hx
  have hsink : (pipeline onlySubmodels).sink (pipeline onlySubmodels).name = sink pipelineName := by
    cases onlySubmodels <;> rfl
  unfold Pipeline.execute
  rw [hsink]
  exact Timed.Meets.seq hemit fun _ _ _ => meets_pure trivial

end Tick

open Program

/-! ## Operations -/

/-- What a tick does with the guard of its service, it does with a warrant. -/
theorem Synchronizer.warranted_attempt (y : Synchronizer) (g : Guard) : (y.attempt g).Warranted url := by
  refine (warranted_request (r := .service g.url) nofun).bind ?_
  rintro (_ | service)
  · exact warranted_done _
  · refine (warranted_request (r := .now) nofun).bind fun start => ?_
    have hrun : (((Tick.pipeline y.onlySubmodels).execute service).run (some (start + y.timeout))).Warranted url := by
      intro before
      refine (Tick.warranted_pipeline y.onlySubmodels service (some (start + y.timeout))).mono ?_
      rintro (e | r) w -
      · trivial
      · trivial
    refine hrun.bind ?_
    rintro ((_ | reason) | r)
    · exact warranted_done _
    · exact warranted_done _
    · exact warranted_done _

/-- Whoever takes an entry out hands what there is to remove for it to the catalog, and nothing else. -/
theorem warranted_cleanUp (u : AccessUrl) : (cleanUp u).Warranted url := by
  intro before
  have hremove : (request (.remove u)).Meets (warranted url) before
      fun a w => ∀ service, a = some service → u = url → w = .removal service := by
    refine ⟨nofun, ?_, trivial⟩
    rintro (_ | service) _ ⟨⟩ hu
    exact if_pos hu
  refine hremove.seq ?_
  rintro (_ | service) w hw
  · trivial
  · dsimp only
    split
    · trivial
    · refine ⟨fun changes he => ?_, ?_, trivial⟩
      · obtain ⟨hu, rfl⟩ := Request.apply.inj he
        rw [hw service rfl hu]
        exact rfl
      · rintro (e | ⟨⟩)
        · trivial
        · trivial

/-- Whatever is woven hands changes to the catalog with a warrant only. -/
theorem Program.Woven.warranted {y : Synchronizer} {α : Type} {p : Program α} (h : p.Woven y) : p.Warranted url := by
  refine h.always ?_ ?_ y.warranted_attempt warranted_cleanUp
  · intro r hr
    refine warranted_request fun u changes he => ?_
    subst he
    nomatch hr
  · exact fun u before g => trivial

/-- That what is left of a task hands changes for a URL to the catalog with a warrant only. -/
def Task.Warranted (url : AccessUrl) (t : Task) : Prop := t.program.Meets (warranted url) (t.warrant url) fun _ _ => True

theorem Task.warrant_move (t : Task) (m : Move) (p : Program Report) : (t.move m p).warrant url = m.warrant url (t.warrant url) := by
  simp [Task.warrant, Task.move]

/-- No step makes a task hand changes to the catalog without a warrant. -/
theorem State.Step.warranted {s : Scheduler} {x y : State} {e : Event} (hs : State.Step s x e y)
    (h : ∀ t ∈ x.tasks, t.Warranted url) : ∀ t ∈ y.tasks, t.Warranted url := by
  refine hs.meets (Task.warrant url) (fun p hp => hp.warranted) (fun t m p hm ht => ?_) h
  rw [Task.warrant_move]
  exact ht.warrant hm.goes

end CatalogSync.Engine
