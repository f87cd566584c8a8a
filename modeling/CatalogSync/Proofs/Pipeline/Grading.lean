import CatalogSync.Proofs.Pipeline.Course

/-!
# Tags and severities

The tag of an outcome is to tell how grave the failures are that it carries: none for a success, some but none that is fatal for a
recoverable one, and one that is fatal for a fatal one (`Outcome.WellFormed`); then the tag is the gravest severity
(`Outcome.wellFormed_iff_graded`). Whatever steps a pipeline is built from, if they only return well-formed outcomes then so do the
steps and pipelines built from them, in every monad (`Layers`).
-/

namespace CatalogSync

namespace Severity

/-- The graver of two severities is fatal if one of them is. -/
theorem max_eq_fatal_iff (a b : Severity) : max a b = .fatal ↔ a = .fatal ∨ b = .fatal := by
  cases a <;> cases b <;> decide

/-- The gravest of several severities is fatal if one of them is. -/
theorem gravest?_eq_fatal_iff (l : List Severity) : gravest? l = some .fatal ↔ Severity.fatal ∈ l := by
  cases l with
  | nil => simp [gravest?]
  | cons s rest =>
    have hfold : ∀ s, rest.foldl max s = .fatal ↔ s = .fatal ∨ Severity.fatal ∈ rest := by
      induction rest with
      | nil => simp
      | cons t rest ih =>
        intro s
        rw [List.foldl_cons, ih, max_eq_fatal_iff, List.mem_cons, or_assoc, eq_comm (a := t)]
    simp only [gravest?, Option.some.injEq, hfold, List.mem_cons, eq_comm (a := s)]

/-- Only of no severities is there no gravest one. -/
theorem gravest?_eq_none_iff (l : List Severity) : gravest? l = none ↔ l = [] := by
  cases l <;> simp [gravest?]

end Severity

/-- A failure is fatal by its severity. -/
theorem Failure.isFatal_iff (f : Failure) : f.isFatal = true ↔ f.severity = .fatal := by simp [Failure.isFatal]

/-- Attributing a failure to a step leaves it as grave as it was. -/
@[simp] theorem Failure.isFatal_attributedTo (f : Failure) (step : String) : (f.attributedTo step).isFatal = f.isFatal := rfl

namespace Outcome

variable {α β : Type}

/-- That the tag of an outcome agrees with the severities of its failures. -/
def WellFormed : Outcome α → Prop
  | success _ => True
  | recoverable _ fs => fs ≠ [] ∧ ∀ f ∈ fs, f.isFatal = false
  | fatal fs => ∃ f ∈ fs, f.isFatal = true

instance (r : Outcome α) : Decidable r.WellFormed :=
  match r with
  | success _ => inferInstanceAs (Decidable True)
  | recoverable _ fs => inferInstanceAs (Decidable (fs ≠ [] ∧ ∀ f ∈ fs, f.isFatal = false))
  | fatal fs => inferInstanceAs (Decidable (∃ f ∈ fs, f.isFatal = true))

/-- That the tag of an outcome is the gravest severity that it carries. -/
structure Graded (r : Outcome α) : Prop where
  success : r.isSuccess = true ↔ r.gravest? = none
  recoverable : r.isRecoverable = true ↔ ∃ s, r.gravest? = some s ∧ s ≠ .fatal
  fatal : r.isFatal = true ↔ r.gravest? = some .fatal

/-- An outcome has no gravest severity exactly if it has no failures. -/
theorem gravest?_eq_none_iff (r : Outcome α) : r.gravest? = none ↔ r.failures = [] := by
  rw [gravest?, Severity.gravest?_eq_none_iff, List.map_eq_nil_iff]

/-- The gravest severity is fatal exactly if a fatal failure is reported. -/
theorem gravest?_eq_fatal_iff (r : Outcome α) : r.gravest? = some .fatal ↔ ∃ f ∈ r.failures, f.isFatal = true := by
  simp only [gravest?, Severity.gravest?_eq_fatal_iff, List.mem_map, Failure.isFatal_iff]

/-- An outcome is well-formed exactly if its tag is the gravest severity that it carries. -/
theorem wellFormed_iff_graded (r : Outcome α) : r.WellFormed ↔ r.Graded := by
  -- a tag that is graded fatal or a success says so of the failures, and the third tag is what is left
  have hmiddle : (∃ s, r.gravest? = some s ∧ s ≠ .fatal) ↔ r.failures ≠ [] ∧ ∀ f ∈ r.failures, f.isFatal = false := by
    rw [← not_iff_not]
    have hfatal := r.gravest?_eq_fatal_iff
    have hnone := r.gravest?_eq_none_iff
    cases hg : r.gravest? with
    | none => simp [hnone.1 hg]
    | some s =>
      have hne : r.failures ≠ [] := fun h => by simp [hnone.2 h] at hg
      rw [hg, Option.some.injEq] at hfatal
      simp [hne, hfatal]
  constructor
  · intro h
    cases r with
    | success a => exact ⟨by simp [isSuccess, gravest?_eq_none_iff, failures], by simp [isRecoverable, hmiddle, failures],
        by simp [isFatal, gravest?_eq_fatal_iff, failures]⟩
    | recoverable a fs =>
      refine ⟨by simpa [isSuccess, gravest?_eq_none_iff, failures] using h.1, ?_, ?_⟩
      · simpa [isRecoverable, hmiddle, failures] using And.intro h.1 h.2
      · simpa [isFatal, gravest?_eq_fatal_iff, failures] using h.2
    | fatal fs =>
      obtain ⟨f, hf, hfatal⟩ := h
      refine ⟨?_, ?_, ?_⟩
      · simpa [isSuccess, gravest?_eq_none_iff, failures] using List.ne_nil_of_mem hf
      · simpa [isRecoverable, hmiddle, failures] using fun _ => ⟨f, hf, hfatal⟩
      · simpa [isFatal, gravest?_eq_fatal_iff, failures] using ⟨f, hf, hfatal⟩
  · intro h
    cases r with
    | success a => trivial
    | recoverable a fs => exact hmiddle.1 (h.recoverable.1 rfl)
    | fatal fs => exact (gravest?_eq_fatal_iff _).1 (h.fatal.1 rfl)

/-- Well-formedness is not about the content. -/
theorem WellFormed.map {r : Outcome α} (h : r.WellFormed) (f : α → β) : (r.map f).WellFormed := by
  cases r with
  | success | recoverable | fatal => exact h

/-- Tying failures to a step leaves their severities as they are. -/
theorem WellFormed.attributedTo {r : Outcome α} (h : r.WellFormed) (step : String) : (r.attributedTo step).WellFormed := by
  cases r with
  | success => trivial
  | recoverable a fs =>
    obtain ⟨hne, hfs⟩ := h
    exact ⟨by simpa using hne, by simpa using hfs⟩
  | fatal fs =>
    obtain ⟨f, hf, hfatal⟩ := h
    exact ⟨f.attributedTo step, List.mem_map_of_mem hf, hfatal⟩

/-- The outcome of one failure has the tag that the failure asks for. -/
theorem wellFormed_ofFailure (content : Option α) (f : Failure) : (ofFailure content f).WellFormed := by
  unfold ofFailure
  split
  · rename_i h
    exact ⟨f, List.mem_singleton_self f, h⟩
  · rename_i h
    refine ⟨by simp, ?_⟩
    intro f' hf
    rw [List.mem_singleton.1 hf]
    exact Bool.eq_false_iff.2 h

/-- A well-formed outcome that is not fatal has no fatal failure. -/
theorem WellFormed.of_not_fatal {r : Outcome α} (h : r.WellFormed) (hr : r.isFatal = false) :
    ∀ f ∈ r.failures, f.isFatal = false := by
  cases r with
  | success a => simp [failures]
  | recoverable a fs => exact h.2
  | fatal fs => simp [isFatal] at hr

/-- A well-formed outcome that is fatal has a fatal failure. -/
theorem WellFormed.of_fatal {r : Outcome α} (h : r.WellFormed) (hr : r.isFatal = true) : ∃ f ∈ r.failures, f.isFatal = true := by
  cases r with
  | success | recoverable => simp [isFatal] at hr
  | fatal fs => exact h

/-- Well-formed outcomes are merged to one. -/
theorem wellFormed_merge {rs : List (Outcome α)} (h : ∀ r ∈ rs, r.WellFormed) : (merge rs).WellFormed := by
  unfold merge
  split
  · rename_i hany
    obtain ⟨r, hr, hfatal⟩ := List.any_eq_true.1 hany
    obtain ⟨f, hf, hgrave⟩ := (h r hr).of_fatal hfatal
    exact ⟨f, List.mem_flatMap.2 ⟨r, hr, hf⟩, hgrave⟩
  · rename_i hany
    have hmild : ∀ f ∈ rs.flatMap failures, f.isFatal = false := by
      intro f hf
      obtain ⟨r, hr, hf⟩ := List.mem_flatMap.1 hf
      refine (h r hr).of_not_fatal ?_ f hf
      exact Bool.eq_false_iff.2 fun hfatal => hany (List.any_eq_true.2 ⟨r, hr, hfatal⟩)
    dsimp only
    split
    · trivial
    · rename_i hne
      exact ⟨by simpa using hne, hmild⟩

end Outcome

namespace Step

variable {m : Type → Type} [Monad m] [LawfulMonad m] {α β κ : Type}

/-- That a step only returns well-formed outcomes. -/
def Sound {m : Type → Type} [Functor m] (s : Step m α β) : Prop := ∀ a, SatisfiesM Outcome.WellFormed (s.apply a)

/-- A step is sound if the function it is made of returns well-formed outcomes. -/
theorem sound_ofFn (name : String) {f : α → Outcome β} (h : ∀ a, (f a).WellFormed) : (ofFn name f : Step m α β).Sound :=
  fun a => SatisfiesM.pure (h a)

/-- A filter fails nowhere. -/
theorem sound_filter (name : String) (keep : α → Bool) : (filter name keep : Step m (List α) (List α)).Sound :=
  sound_ofFn name fun _ => trivial

/-- What is done for every element has what each of it has. -/
theorem satisfies_mapM {P : β → Prop} {f : α → m β} (h : ∀ a, SatisfiesM P (f a)) (items : List α) :
    SatisfiesM (fun bs => ∀ b ∈ bs, P b) (items.mapM f) := by
  induction items with
  | nil =>
    rw [List.mapM_nil]
    exact SatisfiesM.pure (by simp)
  | cons a rest ih =>
    rw [List.mapM_cons]
    refine (h a).bind fun b hb => ih.bind fun bs hbs => SatisfiesM.pure ?_
    exact List.forall_mem_cons.2 ⟨hb, hbs⟩

/-- A feeder merges what its inner step returns, and is sound if that is. -/
theorem Sound.feeder {inner : Step m α β} (h : inner.Sound) : (feeder inner).Sound := by
  intro items
  refine (satisfies_mapM h items).bind fun rs hrs => SatisfiesM.pure (Outcome.wellFormed_merge ?_)
  intro r hr
  obtain ⟨r', hr', rfl⟩ := List.mem_map.1 hr
  exact (hrs r' hr').attributedTo _

/-- So is a zipper. -/
theorem Sound.zipper [BEq κ] {inner : Step m α β} (h : inner.Sound) (key : α → κ) : (zipper inner key).Sound := by
  intro items
  have hone : ∀ a, SatisfiesM Outcome.WellFormed (do
      return ((← inner.apply a).map fun b => (key a, b)).attributedTo inner.name) := by
    intro a
    exact (h a).bind fun r hr => SatisfiesM.pure ((hr.map _).attributedTo _)
  exact (satisfies_mapM hone items).bind fun rs hrs => SatisfiesM.pure ((Outcome.wellFormed_merge hrs).map _)

end Step

namespace Chain

variable {m : Type → Type} [Monad m] [LawfulMonad m] {α β : Type}

/-- That every step of a chain only returns well-formed outcomes. -/
def Sound {m : Type → Type} [Functor m] {α β : Type} : Chain m α β → Prop
  | nil => True
  | snoc head step _ => head.Sound ∧ step.Sound

/-- That a run has recorded a fatal failure exactly if it has no output. -/
def Coherent : Option β × List Failure → Prop
  | (some _, fs) => ∀ f ∈ fs, f.isFatal = false
  | (none, fs) => ∃ f ∈ fs, f.isFatal = true

/-- A run of sound steps stays coherent: what a step adds to the failures recorded so far agrees with whether it goes on. -/
theorem satisfies_run (report : Failure → m Unit) {c : Chain m α β} (h : c.Sound) (a : α) :
    SatisfiesM Coherent (c.run report a) := by
  induction c with
  | nil => exact SatisfiesM.pure (p := Coherent) (by simp [Coherent])
  | snoc head step fallback ih =>
    obtain ⟨hhead, hstep⟩ := h
    refine satisfies_run_snoc (ih hhead) (fun _ h => h) fun b recorded hrecorded => (hstep b).imp fun {r} hr c hc => ?_
    have hr' := hr.attributedTo step.name
    cases c with
    | none =>
      obtain ⟨f, hf, hfatal⟩ := hr'.of_fatal (by simpa using hc)
      exact ⟨f, List.mem_append_right _ hf, hfatal⟩
    | some c => exact List.forall_mem_append.2 ⟨hrecorded, hr'.of_not_fatal (by simpa using hc)⟩

/-- A coherent run has a well-formed outcome. -/
theorem Coherent.wellFormed_outcome {x : Option β × List Failure} (h : Coherent x) : (outcome x).WellFormed := by
  rcases x with ⟨_ | b, fs⟩
  · exact h
  · cases fs with
    | nil => trivial
    | cons f fs => exact ⟨by simp, h⟩

end Chain

namespace Pipeline

variable {m : Type → Type} [Monad m] {α β γ : Type}

/-- That every step of a pipeline only returns well-formed outcomes. -/
def Sound (p : Pipeline m α β) : Prop := p.chain.Sound

/-- A sound pipeline with a sound step added is sound. -/
theorem Sound.step {p : Pipeline m α β} (h : p.Sound) {s : Step m β γ} (hs : s.Sound) (fallback : m γ) :
    (p.step s fallback).Sound := ⟨h, hs⟩

variable [LawfulMonad m]

/-- Whatever a sound pipeline is executed on, its outcome is well-formed. -/
theorem Sound.execute {p : Pipeline m α β} (h : p.Sound) (seed : α) : SatisfiesM Outcome.WellFormed (p.execute seed) :=
  (Chain.satisfies_run _ h seed).bind fun _ hx => SatisfiesM.pure hx.wellFormed_outcome

/-- A run that has nothing to start from is fatal and has a fatal failure. -/
theorem Sound.executeOrSupply {p : Pipeline m α β} (h : p.Sound) (seed : Option α) :
    SatisfiesM Outcome.WellFormed (p.executeOrSupply seed) := by
  unfold Pipeline.executeOrSupply
  split
  · exact h.execute _
  · exact SatisfiesM.trivial.bind fun a _ => h.execute a
  · exact SatisfiesM.trivial.bind fun _ _ => SatisfiesM.pure ⟨_, List.mem_singleton_self _, rfl⟩

end Pipeline

/-- That the layers of pipelines in a monad keep tags and severities in agreement. -/
structure Layers (m : Type → Type) [Monad m] : Prop where
  filter : ∀ {α : Type} (name : String) (keep : α → Bool), (Step.filter name keep : Step m (List α) (List α)).Sound
  feeder : ∀ {α β : Type} (inner : Step m α β), inner.Sound → (Step.feeder inner).Sound
  zipper : ∀ {α β κ : Type} [BEq κ] (inner : Step m α β) (key : α → κ), inner.Sound → (Step.zipper inner key).Sound
  execute : ∀ {α β : Type} (p : Pipeline m α β), p.Sound → ∀ seed, SatisfiesM Outcome.WellFormed (p.execute seed)
  executeOrSupply : ∀ {α β : Type} (p : Pipeline m α β), p.Sound → ∀ seed, SatisfiesM Outcome.WellFormed (p.executeOrSupply seed)
  run : ∀ {α β : Type} (p : Pipeline m α β), p.Sound → SatisfiesM Outcome.WellFormed p.run
  /-- A whole pipeline is a sound step of others. -/
  asStep : ∀ {α β : Type} (p : Pipeline m α β), p.Sound → p.asStep.Sound

/-- So the layers do in every monad. -/
theorem layers (m : Type → Type) [Monad m] [LawfulMonad m] : Layers m where
  filter := Step.sound_filter
  feeder _ h := h.feeder
  zipper _ key h := h.zipper key
  execute _ h := h.execute
  executeOrSupply _ h := h.executeOrSupply
  run _ h := h.executeOrSupply none
  asStep _ h := h.execute

end CatalogSync
