import CatalogSync.Proofs.Pipeline.Course
import CatalogSync.Proofs.Pipeline.Observation

/-!
# Nested pipelines

A pipeline may be a step of another one. `Grouping` makes blocks of steps pipelines of their own, and blocks of these, to any depth;
`Grouping.nested` is the chain that results and `Grouping.flat` the chain of all the steps in order. Both do and return the same, if no
step looks at what the sinks were told (`Grouping.nesting_invisible`): what an inner run has recorded is folded to an outcome, which the
outer run takes apart again, and the failures in it name their steps already. But a sink is told more often where pipelines are nested,
and a step that looks at that may do something else (`Grouping.nesting_visible`).
-/

namespace CatalogSync

/-- What a computation satisfies may be used in what follows it. -/
theorem bind_congr_of_satisfies {m : Type → Type} [Monad m] [LawfulMonad m] {α β : Type} {P : α → Prop} {x : m α}
    (h : SatisfiesM P x) {f g : α → m β} (hfg : ∀ a, P a → f a = g a) : x >>= f = x >>= g := by
  obtain ⟨y, rfl⟩ := h
  rw [bind_map_left, bind_map_left]
  exact bind_congr fun a => hfg a.1 a.2

namespace Chain

open Course

/-- A chain and another one after it. -/
def append {m : Type → Type} {α β γ : Type} (c : Chain m α β) : Chain m β γ → Chain m α γ
  | .nil => c
  | .snoc d step fallback => .snoc (c.append d) step fallback

variable {m : Type → Type} [Monad m] [LawfulMonad m] {α β γ : Type}

/-- A run of one chain after another: the second one is not run if the first one stopped, and else adds what it records. -/
theorem run_append (report : Failure → m Unit) (c : Chain m α β) (d : Chain m β γ) (a : α) :
    (c.append d).run report a = (do
      match ← c.run report a with
      | (none, failures) => return (none, failures)
      | (some b, failures) => afterFailures failures <$> d.run report b) := by
  induction d with
  | nil =>
    conv => lhs; rw [append, ← bind_pure (c.run report a)]
    apply bind_congr
    rintro ⟨_ | b, failures⟩
    · rfl
    · simp [run, afterFailures]
  | snoc d step fallback ih =>
    simp only [append, run_snoc, ih, bind_assoc]
    apply bind_congr
    rintro ⟨_ | b, failures⟩
    · simp
    · simp only [map_bind, bind_map_left]
      apply bind_congr
      rintro ⟨_ | c, recorded⟩ <;> simp [afterFailures]

omit [LawfulMonad m] in
theorem Erases.append {σ : Type} {c : Chain (StateT σ m) α β} {c' : Chain m α β} (hc : c.Erases c')
    {d : Chain (StateT σ m) β γ} {d' : Chain m β γ} (hd : d.Erases d') : (c.append d).Erases (c'.append d') := by
  induction hd with
  | nil => exact hc
  | snoc _ hname hstep hfallback ih => exact .snoc ih hname hstep hfallback

/-- Every failure that a run records names a step. -/
theorem satisfies_named (report : Failure → m Unit) (c : Chain m α β) (a : α) :
    SatisfiesM (fun x => ∀ f ∈ x.2, f.step.isSome = true) (c.run report a) := by
  induction c with
  | nil => exact SatisfiesM.pure (by simp)
  | snoc head step fallback ih =>
    refine satisfies_run_snoc ih (fun _ h => h) fun b recorded h => SatisfiesM.trivial.imp fun {r} _ c _ => ?_
    refine List.forall_mem_append.2 ⟨h, ?_⟩
    cases r <;> simp [Outcome.attributedTo, Outcome.failures, Failure.attributedTo]

end Chain

/-- Failures that name a step keep its name. -/
theorem Outcome.attributedTo_of_named {α : Type} {r : Outcome α} (h : ∀ f ∈ r.failures, f.step.isSome = true) (step : String) :
    r.attributedTo step = r := by
  have hkept (fs : List Failure) (h : ∀ f ∈ fs, f.step.isSome = true) : fs.map (·.attributedTo step) = fs := by
    refine (List.map_congr_left fun f hf => ?_).trans fs.map_id
    obtain ⟨severity, name, message⟩ := f
    obtain ⟨name, rfl⟩ := Option.isSome_iff_exists.1 (h _ hf)
    rfl
  cases r with
  | success a => rfl
  | recoverable a fs => rw [attributedTo, hkept fs h]
  | fatal fs => rw [attributedTo, hkept fs h]

namespace Chain

open Course

variable {m : Type → Type} [Monad m] [LawfulMonad m] {α β γ : Type}

/-- A pipeline as the last step: its failures are reported once more, under the step names that they have, its fallback is not asked
for, and there is an output exactly if it has content. -/
theorem run_snoc_execute (report : Failure → m Unit) (head : Chain m α β) (name : String) (p : Pipeline m β γ) (fallback : m γ)
    (a : α) : (snoc head ⟨name, p.execute⟩ fallback).run report a = (do
      match ← head.run report a with
      | (none, recorded) => return (none, recorded)
      | (some b, recorded) =>
        let r ← p.execute b
        r.failures.forM report
        return (r.content?, recorded ++ r.failures)) := by
  rw [run_snoc]
  apply bind_congr
  rintro ⟨_ | b, recorded⟩
  · rfl
  simp only [Pipeline.execute, bind_assoc, pure_bind]
  refine bind_congr_of_satisfies (satisfies_named _ p.chain b) fun x hx => ?_
  rw [Outcome.attributedTo_of_named (by simpa using hx)]
  simp

/-- The steps after a pipeline run on its content, and not at all without one. -/
theorem run_snoc_execute_append {δ : Type} (report : Failure → m Unit) (head : Chain m α β) (name : String) (p : Pipeline m β γ)
    (fallback : m γ) (rest : Chain m γ δ) (a : α) : ((snoc head ⟨name, p.execute⟩ fallback).append rest).run report a = (do
      match ← head.run report a with
      | (none, recorded) => return (none, recorded)
      | (some b, recorded) =>
        let r ← p.execute b
        r.failures.forM report
        match r.content? with
        | none => return (none, recorded ++ r.failures)
        | some c => afterFailures (recorded ++ r.failures) <$> rest.run report c) := by
  rw [run_append, run_snoc_execute, bind_assoc]
  apply bind_congr
  rintro ⟨_ | b, recorded⟩
  · simp
  · simp only [bind_assoc, pure_bind]
    apply bind_congr
    intro r
    apply bind_congr
    intro _
    cases r.content? <;> rfl

end Chain

/-- Steps of which blocks stand as pipelines of their own, and blocks within these, to any depth. A block has a name and a sink and
perhaps a supplier, and the step that it is has a name and a fallback too. Sinks change a state, which steps can look at. -/
inductive Grouping (σ : Type) (m : Type → Type) : Type → Type → Type 1 where
  | nil {α : Type} : Grouping σ m α α
  | step {α β γ : Type} (head : Grouping σ m α β) (step : Step (StateT σ m) β γ) (fallback : StateT σ m γ) : Grouping σ m α γ
  | block {α β γ : Type} (head : Grouping σ m α β) (stepName name : String) (supplier : Option (StateT σ m β))
      (sink : String → Failure → σ → σ) (inner : Grouping σ m β γ) (fallback : StateT σ m γ) : Grouping σ m α γ

namespace Grouping

variable {σ : Type} {m : Type → Type} [Monad m] {α β γ : Type}

/-- A pipeline whose sink changes the state. -/
def pipeline (name : String) (supplier : Option (StateT σ m α)) (chain : Chain (StateT σ m) α β) (sink : String → Failure → σ → σ) :
    Pipeline (StateT σ m) α β := ⟨name, supplier, chain, fun name f => note (sink name f)⟩

/-- The chain in which every block is one step. -/
def nested {α β : Type} : Grouping σ m α β → Chain (StateT σ m) α β
  | nil => .nil
  | step head s fallback => .snoc head.nested s fallback
  | block head stepName name supplier sink inner fallback =>
    .snoc head.nested ⟨stepName, (pipeline name supplier inner.nested sink).execute⟩ fallback

/-- The chain in which the steps of every block stand in its place. -/
def flat {α β : Type} : Grouping σ m α β → Chain (StateT σ m) α β
  | nil => .nil
  | step head s fallback => .snoc head.flat s fallback
  | block head _ _ _ _ inner _ => head.flat.append inner.flat

/-- That the steps, and their fallbacks, come to the same whatever the state is: it does not matter to them what sinks were told. -/
def Heedless {α β : Type} : Grouping σ m α β → Prop
  | nil => True
  | step head s fallback => head.Heedless ∧ (∀ b, ∃ x, Erases (s.apply b) x) ∧ ∃ x, Erases fallback x
  | block head _ _ _ _ inner _ => head.Heedless ∧ inner.Heedless

variable [LawfulMonad m] {g : Grouping σ m α β}

/-- What is told first to a sink that changes nothing but the state does not count. -/
theorem erases_told {report : Failure → StateT σ m Unit} (h : ∀ f, Erases (report f) (pure ())) (fs : List Failure)
    {x : StateT σ m α} {y : m α} (hx : Erases x y) : Erases (fs.forM report >>= fun _ => x) y := by
  rw [List.forM_eq_forM]
  induction fs with
  | nil => simpa using hx
  | cons f fs ih =>
    rw [List.forM_cons, bind_assoc, ← pure_bind () fun _ => y]
    exact (h f).bind fun _ => ih

/-- A step that is a pipeline adds to a run what the steps of that pipeline add to a run without sinks, whatever its sink is told. -/
theorem erases_run_block {report : Failure → StateT σ m Unit} (h : ∀ f, Erases (report f) (pure ())) {head : Chain (StateT σ m) α β}
    {head' : Chain m α β} {a : α} (hhead : Erases (head.run report a) (head'.run (fun _ => pure ()) a))
    {p : Pipeline (StateT σ m) β γ} {chain : Chain m β γ}
    (hp : ∀ b, Erases (p.chain.run (p.sink p.name) b) (chain.run (fun _ => pure ()) b)) (stepName : String) (fallback : StateT σ m γ) :
    Erases ((Chain.snoc head ⟨stepName, p.execute⟩ fallback).run report a) ((head'.append chain).run (fun _ => pure ()) a) := by
  rw [Chain.run_snoc_execute, Chain.run_append]
  refine hhead.bind ?_
  rintro ⟨_ | b, recorded⟩
  · exact .pure _
  -- the inner run is folded to an outcome, which the outer run takes apart again
  simp only [Pipeline.execute, bind_assoc, pure_bind, Chain.failures_outcome, Chain.content?_outcome, ← bind_pure_comp]
  exact (hp b).bind fun x => erases_told h x.2 (.pure _)

/-- Without the state the steps are those of one chain, and the nested chain runs as that does without any sink. -/
theorem Heedless.exists_plain (hg : g.Heedless) : ∃ c : Chain m α β, g.flat.Erases c ∧
    ∀ {report : Failure → StateT σ m Unit}, (∀ f, Erases (report f) (pure ())) →
      ∀ a, Erases (g.nested.run report a) (c.run (fun _ => pure ()) a) := by
  induction g with
  | nil => exact ⟨.nil, .nil, fun _ _ => .pure _⟩
  | step head s fallback ih =>
    obtain ⟨hhead, hstep, x, hfallback⟩ := hg
    obtain ⟨c, hflat, hnested⟩ := ih hhead
    choose y hy using hstep
    exact ⟨.snoc c ⟨s.name, y⟩ x, .snoc hflat rfl hy hfallback,
      fun h a => Chain.erases_run_snoc h (hnested h a) rfl hy hfallback⟩
  | block head stepName name supplier sink inner fallback ih ihInner =>
    obtain ⟨c, hflat, hnested⟩ := ih hg.1
    obtain ⟨d, hflatInner, hnestedInner⟩ := ihInner hg.2
    exact ⟨c.append d, hflat.append hflatInner,
      fun h a => erases_run_block h (hnested h a) (hnestedInner fun f => .note (sink name f)) stepName fallback⟩

/-- Whatever the sinks are told, executing the nested chain or the flat one comes to the same. -/
theorem Heedless.erases_execute (hg : g.Heedless) (name : String) (supplier : Option (StateT σ m α)) (sink : String → Failure → σ → σ)
    (seed : α) : ∃ x, Erases ((pipeline name supplier g.nested sink).execute seed) x ∧
      Erases ((pipeline name supplier g.flat sink).execute seed) x := by
  obtain ⟨c, hflat, hnested⟩ := hg.exists_plain
  have htold : ∀ f, Erases (note (sink name f) : StateT σ m Unit) (pure ()) := fun f => .note (sink name f)
  exact ⟨_, (hnested htold seed).bind fun _ => .pure _, (hflat.run htold seed).bind fun _ => .pure _⟩

/-- Nesting pipelines changes nothing for steps to which it does not matter what sinks were told: however blocks of them are made
pipelines of their own, and blocks of these, to any depth, the outer pipeline does what the flat one does and returns the same. For all
steps, in every monad and with every sink, an inner pipeline has content unless it is fatal, so that the fallback of its step is never
used, its failures keep the names of the steps that they arose in, and if it is fatal no step after it runs. -/
theorem nesting_invisible (hg : g.Heedless) (name : String) (supplier : Option (StateT σ m α)) (sink : String → Failure → σ → σ) :
    (∀ (seed : α) (s : σ),
      Prod.fst <$> ((pipeline name supplier g.nested sink).execute seed).run s =
        Prod.fst <$> ((pipeline name supplier g.flat sink).execute seed).run s) ∧
    ∀ (δ ε : Type) (head : Chain m α β) (stepName : String) (p : Pipeline m β δ) (fallback : m δ) (rest : Chain m δ ε)
      (report : Failure → m Unit),
      (∀ b, SatisfiesM (fun r => (r.content? = none ↔ r.isFatal = true) ∧ ∀ f ∈ r.failures, f.step.isSome = true) (p.execute b)) ∧
      ∀ a, ((Chain.snoc head ⟨stepName, p.execute⟩ fallback).append rest).run report a = (do
        match ← head.run report a with
        | (none, recorded) => return (none, recorded)
        | (some b, recorded) =>
          let r ← p.execute b
          r.failures.forM report
          match r.content? with
          | none => return (none, recorded ++ r.failures)
          | some c => Course.afterFailures (recorded ++ r.failures) <$> rest.run report c) := by
  refine ⟨fun seed s => ?_, fun δ ε head stepName p fallback rest report => ⟨fun b => ?_, fun a => ?_⟩⟩
  · obtain ⟨_, hnested, hflat⟩ := hg.erases_execute name supplier sink seed
    exact (hnested s).trans (hflat s).symm
  · refine (Chain.satisfies_named _ p.chain b).bind fun x hx => SatisfiesM.pure ⟨by simp, by simpa using hx⟩
  · exact Chain.run_snoc_execute_append report head stepName p fallback rest a

/-- A step may give something else where pipelines are nested, if it looks at what the sinks were told. Here sinks count what they are
told: a failure within a block is told by the inner run and by the outer one. So the step that returns the count returns two, and one
where the steps of the block stand in its place. -/
theorem nesting_visible :
    ¬∀ (g : Grouping Nat Id Nat Nat) (name : String) (supplier : Option (StateM Nat Nat)) (sink : String → Failure → Nat → Nat)
      (seed s : Nat), Prod.fst <$> ((pipeline name supplier g.nested sink).execute seed).run s =
        Prod.fst <$> ((pipeline name supplier g.flat sink).execute seed).run s := by
  intro h
  let warn : Step (StateM Nat) Nat Nat := .ofFn "warn" fun n => .recoverable (some n) [.warning "slow"]
  let count : Step (StateM Nat) Nat Nat := ⟨"count", fun _ => do return .success (← get)⟩
  let tell (_ : String) (_ : Failure) (told : Nat) : Nat := told + 1
  have heq := h ((nil.block "inner" "inner" none tell (nil.step warn (pure 0)) (pure 0)).step count (pure 0)) "outer" none tell 5 0
  have htwo : (Outcome.recoverable (some 2) [(Failure.warning "slow").withStep "warn"]).content? = some 1 :=
    congrArg (fun r => (Id.run r).content?) heq
  exact absurd (Option.some.inj htwo) (by decide)

/-- A block in a block: the innermost step has no content and falls back, the step after it stops under a step name of its own, and
the last step is never applied. Steps note that they are applied, and sinks what they are told. -/
def stopped : Grouping (List (String × Failure)) (StateM (List String)) Nat Nat :=
  let noted (name : String) (r : Nat → Outcome Nat) : Step (StateM (List String)) Nat Nat :=
    ⟨name, fun n => do modify (· ++ [name]); return r n⟩
  let tell (name : String) (f : Failure) (told : List (String × Failure)) := told ++ [(name, f)]
  let deep := nil.step (noted "lose" fun _ => .recoverable none [.warning "lost"]).lifted (pure 7)
  let inner := (nil.block "deep" "deep" none tell deep (pure 0)).step
    (noted "stop" fun _ => .fatal [(Failure.fatal "stopped").withStep "own"]).lifted (pure 0)
  ((nil.step (noted "double" fun n => .success (2 * n)).lifted (pure 0)).block "inner" "inner" none tell inner (pure 0)).step
    (noted "never" .success).lifted (pure 0)

/-- The nested pipeline applies the same steps and returns the same as the flat one; its sinks are told more. -/
theorem nesting_invisible_stopped :
    let tell (name : String) (f : Failure) (told : List (String × Failure)) := told ++ [(name, f)]
    let lost := (Failure.warning "lost").withStep "lose"
    let stop := (Failure.fatal "stopped").withStep "own"
    stopped.Heedless ∧
    Prod.fst <$> ((pipeline "p" none stopped.nested tell).execute 3).run [] =
      Prod.fst <$> ((pipeline "p" none stopped.flat tell).execute 3).run [] ∧
    (((pipeline "p" none stopped.nested tell).execute 3).run []).run [] =
      ((.fatal [lost, stop],
        [("deep", lost), ("inner", lost), ("inner", stop), ("p", lost), ("p", stop)]), ["double", "lose", "stop"]) ∧
    (((pipeline "p" none stopped.flat tell).execute 3).run []).run [] =
      ((.fatal [lost, stop], [("p", lost), ("p", stop)]), ["double", "lose", "stop"]) := by
  have hlifted : ∀ {s : Step (StateM (List String)) Nat Nat} {n : Nat},
      (∀ b, ∃ x, Erases (σ := List (String × Failure)) (s.lifted.apply b) x) ∧
      ∃ x, Erases (pure n : StateT (List (String × Failure)) (StateM (List String)) Nat) x :=
    fun {s n} => ⟨fun b => ⟨_, .lift (s.apply b)⟩, _, .pure n⟩
  have hheedless : stopped.Heedless :=
    ⟨⟨⟨trivial, hlifted⟩, ⟨⟨trivial, trivial, hlifted⟩, hlifted⟩⟩, hlifted⟩
  exact ⟨hheedless, (nesting_invisible hheedless "p" none _).1 3 [], rfl, rfl⟩

end Grouping

end CatalogSync
