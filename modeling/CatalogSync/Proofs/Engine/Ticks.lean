import CatalogSync.Proofs.Engine.Regime

/-!
# Ticks keep a regime

Timed work keeps a regime when it does under any deadline (`Timed.Keeps`), and a chain of steps does when every step leads from one
assertion to the next (`Timed.keeps_run_snoc`). The steps of a tick lead from a sound site over a fetched graph and a comparison
with the entry to an owed change set and back to a sound site (`Synchronizer.keeps_runTick`).
-/

namespace CatalogSync.Engine

/-! ## Assertions about what is held -/

/-- A statement about what is held that others do not disturb, and under which a task may be cut short. -/
structure Regime.Assertion (P : Regime) where
  holds : Held → Prop
  stable : ∀ {h h'}, holds h → P.Grows h h' → holds h'
  safe : ∀ {h}, holds h → P.Safe h

/-- That timed work keeps a regime under any deadline, the end it comes to with a value, and the end it comes to early. -/
abbrev Timed.Keeps (P : Regime) {α : Type} (t : Timed α) (held : Held) (Q : α → Held → Prop) (E : Held → Prop) : Prop :=
  t.Meets P.calculus held Q fun _ => E

/-- A request that does not concern what is held keeps an assertion. -/
theorem Regime.Assertion.ask {P : Regime} (A : P.Assertion) {held : Held} {r : Request} (h : A.holds held)
    (hr : ∀ h, A.holds h → P.Reply h r fun _ h => A.holds h) : P.Ask held r (fun _ h => A.holds h) A.holds := by
  intro held' hg
  have h' := A.stable h hg
  exact ⟨A.safe h', hr held' h', fun _ => h'⟩

namespace Timed

open Regime

variable {P : Regime} {α β γ : Type} {held : Held}

/-- What an outcome leads to, given the value that a missing content falls back to. -/
def Stage (J : γ → P.Assertion) (F : P.Assertion) (fallback : γ) : Outcome γ → Held → Prop
  | .success c, h => (J c).holds h
  | .recoverable c _, h => (J (c.getD fallback)).holds h
  | .fatal _, h => F.holds h

/-- What a run of a chain leads to. -/
def RunEnd (J : γ → P.Assertion) (F : P.Assertion) : Option γ × List Failure → Held → Prop :=
  Ended (fun c _ => (J c).holds) fun _ => F.holds

/-- Telling the sink about a failure is not the business of any site. -/
theorem silent (A : P.Assertion) : P.calculus.Silent A.holds :=
  fun _ h pipeline f => Ask.mono (fun _ _ ha => ha) (fun _ _ => trivial) (A.ask (r := .report pipeline f) h fun _ ha _ => ha)

/-- A chain with one more step leads to where the step leads from where the chain leads. -/
theorem keeps_run_snoc {I : β → P.Assertion} {J : γ → P.Assertion} {F : P.Assertion} {head : Chain Timed α β}
    {step : Step Timed β γ} {fallback : γ} {pipeline : String} {a : α}
    (hh : Keeps P (head.run (Tick.sink pipeline) a) held (RunEnd I F) F.holds)
    (hs : ∀ b h, (I b).holds h → Keeps P (step.apply b) h (Stage J F fallback) F.holds) :
    Keeps P ((head.snoc step (pure fallback)).run (Tick.sink pipeline) a) held (RunEnd J F) F.holds := by
  refine meets_run_snoc (fun c _ => silent (J c)) (fun _ => silent F) hh fun b recorded h hb => (hs b h hb).mono ?_
  rintro (c | ⟨c, failures⟩ | failures) h hr
  · exact hr
  · exact hr
  · exact hr

end Timed

namespace Regime

variable (P : Regime)

/-! ## Sites in order -/

/-- The guard is held and its site is sound. -/
def inOrder (g : Guard) : P.Assertion where
  holds h := ∃ σ, h = some (g, σ) ∧ P.sound g.url σ
  stable := by
    rintro h h' ⟨σ, rfl, hs⟩ hg
    cases hg with
    | same => exact ⟨σ, rfl, hs⟩
    | registered ha hu => exact ⟨_, rfl, P.sound_register hs ha hu⟩
  safe := by
    rintro h ⟨σ, rfl, hs⟩
    exact safe_of_sound hs

/-- The guard is held and a change set is owed for its site. -/
def owing (g : Guard) (c : ResourceChanges) : P.Assertion where
  holds h := ∃ σ, h = some (g, σ) ∧ P.owed g.url c σ
  stable := by
    rintro h h' ⟨σ, rfl, ho⟩ hg
    cases hg with
    | same => exact ⟨σ, rfl, ho⟩
    | registered ha hu => exact ⟨_, rfl, P.owed_register ho ha hu⟩
  safe := by
    rintro h ⟨σ, rfl, ho⟩ hl
    exact safe_of_sound (P.sound_of_lossy hl ho) hl

/-- The guard is held, its site is sound, and a comparison with the entry of the site is at hand. -/
def comparing (g : Guard) (d : Diffed) : P.Assertion where
  holds h := ∃ s shelf, h = some (g, ⟨some s, shelf⟩) ∧ s.url = g.url ∧ P.sound g.url ⟨some s, shelf⟩ ∧ d.url = g.url ∧
    d.old = s.snapshot ∧ Graph.diff (s.snapshot.map Snapshot.graph) d.new.graph = .ok d.changes
  stable := by
    rintro h h' ⟨s, shelf, rfl, hd⟩ hg
    cases hg
    exact ⟨s, shelf, rfl, hd⟩
  safe := by
    rintro h ⟨s, shelf, rfl, _, hs, _⟩
    exact safe_of_sound hs

/-- An assertion together with a fact. -/
def Assertion.given {P : Regime} (A : P.Assertion) (p : Prop) : P.Assertion where
  holds h := p ∧ A.holds h
  stable := fun h hg => ⟨h.1, A.stable h.2 hg⟩
  safe := fun h => A.safe h.2

end Regime

namespace Tick

open Regime Timed

variable {P : Regime} {g : Guard} {held : Held}

/-! ## The steps of a tick -/

/-- A failed step without content leads on from nothing, or to the end. -/
theorem stage_failed {γ : Type} {J : Option γ → P.Assertion} {F : P.Assertion} (e : SyncError) (hJ : (J none).holds held)
    (hF : F.holds held) : Stage J F none (failed e) held := by
  unfold failed Outcome.ofFailure
  split
  · exact hF
  · exact hJ

/-- Finding the headers of a request keeps an assertion. -/
theorem keeps_headers (A : P.Assertion) (auth : AuthMethod) (h : A.holds held) :
    Timed.Keeps P (auth.headers fun name => Timed.request (.resolve name)) held (fun _ h => A.holds h) A.holds := by
  refine Timed.Meets.seq (Q := fun _ h => A.holds h) ?_ fun _ _ ha => meets_pure ha
  cases auth with
  | none => exact meets_pure h
  | basic username password => exact meets_pure h
  | apiKey name value => exact meets_pure h
  | vault name =>
    refine (meets_request (A.ask (r := .resolve name) h fun _ ha _ => ha)).seq ?_
    rintro (_ | value) h ha
    · exact meets_pure ha
    · exact meets_pure ha

/-- A fetched graph belongs to the URL of the guard. -/
def fetched (P : Regime) (g : Guard) (x : Option Fetched) : P.Assertion :=
  (P.inOrder g).given (∀ f, x = some f → f.service.url = g.url)

/-- What a comparison leads to. -/
def diffed (P : Regime) (g : Guard) : Option Diffed → P.Assertion
  | none => P.inOrder g
  | some d => P.comparing g d

/-- What storing a snapshot leads to. -/
def updated (P : Regime) (g : Guard) : Option Diffed → P.Assertion
  | none => P.inOrder g
  | some d => (P.owing g d.changes).given (d.url = g.url)

/-- Fetching leaves the site as it is, so that what it hands on is for the site. -/
theorem keeps_fetching {s : Service} (hs : s.url = g.url) (h : (P.inOrder g).holds held) :
    Timed.Keeps P (fetching.apply s) held (Stage (fetched P g) (P.inOrder g) none) (P.inOrder g).holds := by
  have hfetch : ∀ headers h, (P.inOrder g).holds h →
      P.Ask h (.fetch s.url headers) (fun _ h => (P.inOrder g).holds h) (P.inOrder g).holds := by
    intro headers h hg
    refine (P.inOrder g).ask hg ?_
    rintro h ⟨σ, rfl, hσ⟩
    exact ⟨⟨g, σ, rfl, hs.symm⟩, fun _ => ⟨σ, rfl, hσ⟩⟩
  have hfailed : ∀ e h, (P.inOrder g).holds h → Stage (fetched P g) (P.inOrder g) none (failed e) h :=
    fun e h hg => stage_failed e ⟨fun _ hf => (nomatch hf), hg⟩ hg
  refine (keeps_headers (P.inOrder g) s.auth h).seq ?_
  rintro (e | headers) h hg
  · exact meets_pure (hfailed e h hg)
  · refine (meets_request (hfetch headers h hg)).seq ?_
    rintro (reason | e | graph) h hg
    · exact meets_halt hg
    · exact meets_pure (hfailed (.fetch e) h hg)
    · exact meets_pure (Q := Stage (fetched P g) (P.inOrder g) none) ⟨fun f hf => by cases hf; exact hs, hg⟩

/-- So does restricting. -/
theorem keeps_restricting (kinds : List ResourceKind) {x : Option Fetched} (h : (fetched P g x).holds held) :
    Timed.Keeps P ((restricting kinds).apply x) held (Stage (fetched P g) (P.inOrder g) none) (P.inOrder g).holds := by
  refine meets_pure (Q := Stage (fetched P g) (P.inOrder g) none) ⟨?_, h.2⟩
  intro f hf
  obtain ⟨f', hf', rfl⟩ := Option.map_eq_some_iff.1 hf
  exact h.1 f' hf'

/-- Diffing hands on changes from what the site has. -/
theorem keeps_diffing {x : Option Fetched} (h : (fetched P g x).holds held) :
    Timed.Keeps P (diffing.apply x) held (Stage (diffed P g) (P.inOrder g) none) (P.inOrder g).holds := by
  cases x with
  | none => exact meets_pure (Q := Stage (diffed P g) (P.inOrder g) none) h.2
  | some f =>
    have hf : f.service.url = g.url := h.1 f rfl
    have hentry : P.Ask held (.service f.service.url)
        (fun a h => (P.inOrder g).holds h ∧ ∀ s, a = some s → s.url = g.url ∧ ∃ shelf, h = some (g, ⟨some s, shelf⟩))
        (P.inOrder g).holds := by
      intro held' hg
      have hs := (P.inOrder g).stable h.2 hg
      refine ⟨(P.inOrder g).safe hs, ?_, fun _ => hs⟩
      obtain ⟨⟨entry, shelf⟩, rfl, hσ⟩ := hs
      refine ⟨g, ⟨entry, shelf⟩, rfl, hf.symm, fun hk => ⟨⟨_, rfl, hσ⟩, ?_⟩⟩
      rintro s rfl
      exact ⟨(hk s rfl).trans hf, shelf, rfl⟩
    refine (meets_request hentry).seq ?_
    rintro (_ | current) h ⟨hs, hc⟩
    · exact meets_pure (stage_failed (J := diffed P g) _ hs hs)
    · obtain ⟨hu, shelf, rfl⟩ := hc current rfl
      dsimp only
      split
      · exact meets_pure (stage_failed (J := diffed P g) _ hs hs)
      · rename_i changes hd
        have hnew : (Program.request (.snapshot f.graph)).Keeps P (some (g, ⟨some current, shelf⟩)) fun new h =>
            (diffed P g (some ⟨f.service.url, current.snapshot, new, changes⟩)).holds h := by
          intro held' hg
          cases hg
          obtain ⟨σ, he, hσ⟩ := hs
          cases he
          exact ⟨safe_of_sound hσ, fun id => ⟨current, shelf, rfl, hu, hσ, hf, rfl, hd⟩, fun _ => trivial⟩
        exact (meets_lift hnew).seq fun _ _ hn => meets_pure (Q := Stage (diffed P g) (P.inOrder g) none) hn

/-- Updating changes the site as its regime allows. -/
theorem keeps_updating {x : Option Diffed} (h : (diffed P g x).holds held) :
    Timed.Keeps P (updating.apply x) held (Stage (updated P g) (P.inOrder g) none) (P.inOrder g).holds := by
  cases x with
  | none => exact meets_pure (Q := Stage (updated P g) (P.inOrder g) none) h
  | some d =>
    -- nobody else can have touched the entry, so the exchange succeeds and its change set is owed
    obtain ⟨s, shelf, rfl, hu, hs, hd, hold, hdiff⟩ := h
    have hswap : P.Ask (some (g, ⟨some s, shelf⟩)) (.swap d.url d.old d.new)
        (fun a h => (∃ old, a = .ok old) ∧ (P.owing g d.changes).holds h) (P.inOrder g).holds := by
      intro held' hg
      cases hg
      refine ⟨safe_of_sound hs, ⟨g, ⟨some s, shelf⟩, rfl, hd.symm, ?_, ?_⟩, fun _ => ⟨_, rfl, hs⟩⟩
      · rintro s' hs' - time
        cases hs'
        exact ⟨⟨_, rfl⟩, _, rfl, P.owed_of_diff hs hu hdiff time⟩
      · intro hne
        exact absurd (congrArg (Option.map Snapshot.id) hold.symm) (hne s rfl)
    refine (meets_request hswap).seq ?_
    rintro _ h ⟨⟨old, rfl⟩, ho⟩
    exact meets_pure (Q := Stage (updated P g) (P.inOrder g) none) ⟨hd, ho⟩

/-- So does emitting. -/
theorem keeps_emitting {x : Option Diffed} (h : (updated P g x).holds held) :
    Timed.Keeps P (emitting.apply x) held (Stage (fun _ => P.inOrder g) (P.inOrder g) none) (P.inOrder g).holds := by
  cases x with
  | none => exact meets_pure (Q := Stage (fun _ => P.inOrder g) (P.inOrder g) none) h
  | some d =>
    obtain ⟨hd, ho⟩ := h
    show Timed.Keeps P (if d.changes.isEmpty then _ else _) _ _ _
    split
    · rename_i he
      obtain ⟨σ, rfl, hσ⟩ := ho
      exact meets_pure (Q := Stage (fun _ => P.inOrder g) (P.inOrder g) none) ⟨σ, rfl, P.sound_of_isEmpty hσ he⟩
    · have happly : P.Ask held (.apply d.url d.changes) (fun _ h => (P.inOrder g).holds h) (P.inOrder g).holds := by
        intro held' hg
        have ho' := (P.owing g d.changes).stable ho hg
        refine ⟨(P.owing g d.changes).safe ho', ?_⟩
        obtain ⟨σ, rfl, hσ⟩ := ho'
        refine ⟨⟨g, σ, rfl, hd.symm, hd ▸ hσ, ⟨_, rfl, P.sound_of_apply hσ⟩, ?_⟩, ?_⟩
        · exact fun hl _ => ⟨σ, rfl, P.sound_of_lossy hl hσ⟩
        · exact fun hl => ⟨σ, rfl, P.sound_of_lossy hl hσ⟩
      refine (meets_request happly).seq ?_
      rintro (e | ⟨⟩) h hg
      · exact meets_pure (Q := Stage (fun _ => P.inOrder g) (P.inOrder g) none) hg
      · exact meets_pure (Q := Stage (fun _ => P.inOrder g) (P.inOrder g) none) hg

/-- The steps of a tick, run on the service of the guard, leave its site in order. -/
theorem keeps_pipeline (onlySubmodels : Bool) {s : Service} (hs : s.url = g.url) (h : (P.inOrder g).holds held) :
    Timed.Keeps P ((pipeline onlySubmodels).execute s) held (fun _ h => (P.inOrder g).holds h) (P.inOrder g).holds := by
  have hstart : Timed.Keeps P (Chain.nil.run (sink pipelineName) s) held
      (RunEnd (fun s => (P.inOrder g).given (s.url = g.url)) (P.inOrder g)) (P.inOrder g).holds :=
    meets_run_nil _ ⟨hs, h⟩
  have hfetch := keeps_run_snoc hstart fun s h (hi : _ ∧ _) => keeps_fetching hi.1 hi.2
  have hrestrict := keeps_run_snoc hfetch fun x h hi => keeps_restricting [.submodel] hi
  have hpre : Timed.Keeps P ((fetchPipeline onlySubmodels).chain.run (sink pipelineName) s) held
      (RunEnd (fetched P g) (P.inOrder g)) (P.inOrder g).holds := by
    cases onlySubmodels with
    | false => exact hfetch
    | true => exact hrestrict
  have hdiff := keeps_run_snoc hpre fun x h hi => keeps_diffing hi
  have hupdate := keeps_run_snoc hdiff fun x h hi => keeps_updating hi
  have hemit := keeps_run_snoc hupdate fun x h hi => keeps_emitting hi
  have hsink : (pipeline onlySubmodels).sink (pipeline onlySubmodels).name = sink pipelineName := by
    cases onlySubmodels <;> rfl
  unfold Pipeline.execute
  rw [hsink]
  refine Timed.Meets.seq hemit ?_
  rintro ⟨_ | c, recorded⟩ h hr
  · exact meets_pure (Q := fun _ h => (P.inOrder g).holds h) hr
  · exact meets_pure (Q := fun _ h => (P.inOrder g).holds h) hr

end Tick

namespace Synchronizer

open Regime

variable {P : Regime} {g : Guard} {held : Held}

/-! ## Ticks -/

/-- Giving a guard back, with its site in order, leaves nothing held. -/
theorem keeps_release (h : (P.inOrder g).holds held) : (Program.release g).Keeps P held fun _ h => h = none := by
  intro held' hg
  have h' := (P.inOrder g).stable h hg
  refine ⟨(P.inOrder g).safe h', ?_, fun _ => trivial⟩
  obtain ⟨σ, rfl, hσ⟩ := h'
  exact ⟨σ, rfl, hσ, Program.keeps_request_none (r := .wake) fun _ => rfl⟩

/-- A pipeline leaves the site in order, whether it ends, is abandoned or crashes. -/
theorem keeps_runPipeline (y : Synchronizer) {s : Service} (hs : s.url = g.url) (h : (P.inOrder g).holds held) :
    (y.runPipeline s).Keeps P held fun _ h => (P.inOrder g).holds h := by
  have hnow : (Program.request .now).Keeps P held fun _ h => (P.inOrder g).holds h :=
    Ask.mono (fun _ _ ha => ha) (fun _ _ => trivial) ((P.inOrder g).ask (r := .now) h fun _ ha _ => ha)
  refine hnow.seq fun start h hi => ?_
  refine (Tick.keeps_pipeline y.onlySubmodels hs hi (some (start + y.timeout))).seq ?_
  rintro ((_ | reason) | a) h hi
  · exact hi
  · exact hi
  · exact hi

/-- A tick leaves the site of its guard in order and gives the guard back. -/
theorem keeps_runTick (y : Synchronizer) {σ : Site} (h : P.sound g.url σ) :
    (y.runTick g).Keeps P (some (g, σ)) fun _ h => h = none := by
  have hentry : (Program.request (.service g.url)).Keeps P (some (g, σ))
      fun a h => (P.inOrder g).holds h ∧ ∀ s, a = some s → s.url = g.url := by
    intro held' hg
    have hs := (P.inOrder g).stable ⟨σ, rfl, h⟩ hg
    refine ⟨(P.inOrder g).safe hs, ?_, fun _ => trivial⟩
    obtain ⟨σ', rfl, hσ⟩ := hs
    exact ⟨g, σ', rfl, rfl, fun hk => ⟨⟨_, rfl, hσ⟩, hk⟩⟩
  have hend : ∀ (r : Except String TickResult) h, (P.inOrder g).holds h →
      Program.Keeps P (do Program.release g; return r) h fun _ h => h = none :=
    fun r h hs => (keeps_release hs).seq fun _ _ hn => hn
  refine hentry.seq ?_
  rintro (_ | service) h ⟨hs, hk⟩
  · exact hend _ h hs
  · exact (keeps_runPipeline y (hk service rfl) hs).seq hend

end Synchronizer

end CatalogSync.Engine
