import Mathlib
import CatalogSync.Proofs.Pipeline.Course

/-!
# Observers

An observer of a computation keeps a state that the computation does not see. `Erases` says that a computation with such a state
comes to one without it, and `Ensures` ties what it returns to the state that it leaves. A pipeline whose steps, fallbacks, supplier
and sink each come to those of another pipeline comes to that pipeline, wherever it is entered (`Pipeline.Erases.call`). So a pipeline
may be watched by an observer to say something about the pipeline itself.
-/

namespace CatalogSync

variable {σ α β γ : Type} {m n : Type → Type} [Monad m]

/-- That a computation with a state comes to a computation without it, whatever the state is at the start. -/
def Erases (x : StateT σ m α) (y : m α) : Prop := ∀ s, Prod.fst <$> x.run s = y

/-- That whatever a computation returns from a state satisfies a condition together with the state that it leaves. -/
def Ensures (s : σ) (x : StateT σ m α) (Q : α → σ → Prop) : Prop := SatisfiesM (fun y => Q y.1 y.2) (x.run s)

/-- A change of the state, as a computation. -/
def note (f : σ → σ) : StateT σ m Unit := modify f

section

variable [LawfulMonad m]

namespace Erases

/-- A value comes to itself. -/
theorem pure (a : α) : Erases (Pure.pure a : StateT σ m α) (Pure.pure a) := by
  intro s
  simp

/-- A computation that does not look at the state comes to itself. -/
theorem lift (x : m α) : Erases (StateT.lift x : StateT σ m α) x := by
  intro s
  simp

/-- Something optional that is done without the state, such as a supplier. -/
theorem rel_lift (x : Option (m α)) : Option.Rel Erases (x.map StateT.lift : Option (StateT σ m α)) x := by
  cases x with
  | none => exact .none
  | some x => exact .some (.lift x)

/-- Taking a note comes to nothing. -/
theorem note (f : σ → σ) : Erases (CatalogSync.note f : StateT σ m Unit) (Pure.pure ()) := by
  intro s
  simp [CatalogSync.note]

/-- Computations in turn come to computations in turn. -/
theorem bind {x : StateT σ m α} {y : m α} (h : Erases x y) {f : α → StateT σ m β} {g : α → m β} (hf : ∀ a, Erases (f a) (g a)) :
    Erases (x >>= f) (y >>= g) := by
  intro s
  rw [StateT.run_bind, map_bind, ← h s, bind_map_left]
  exact bind_congr fun x => hf x.1 x.2

/-- What changes the state first comes to the same. -/
theorem note_bind {x : StateT σ m α} {y : m α} (h : Erases x y) (f : σ → σ) : Erases (CatalogSync.note f >>= fun _ => x) y := by
  rw [← pure_bind () fun _ => y]
  exact (note f).bind fun _ => h

/-- Reporting comes to reporting, failure by failure. -/
theorem forM {report : γ → StateT σ m Unit} {report' : γ → m Unit} (h : ∀ f, Erases (report f) (report' f)) (fs : List γ) :
    Erases (fs.forM report) (fs.forM report') := by
  rw [List.forM_eq_forM, List.forM_eq_forM]
  induction fs with
  | nil => exact pure ()
  | cons f fs ih =>
    rw [List.forM_cons, List.forM_cons]
    exact (h f).bind fun _ => ih

/-- Going on from an outcome comes to going on from it, if the fallbacks do. -/
theorem proceed (r : Outcome α) {fallback : StateT σ m α} {fallback' : m α} (h : Erases fallback fallback') :
    Erases (r.proceed fallback) (r.proceed fallback') := by
  rcases r with b | ⟨_ | b, fs⟩ | fs
  · exact pure _
  · rw [Outcome.proceed, Outcome.proceed, ← bind_pure_comp, ← bind_pure_comp]
    exact h.bind fun b => pure (some b)
  · exact pure _
  · exact pure _

end Erases

namespace Ensures

variable {s : σ}

/-- A value ensures what holds of it in the state as it is. -/
theorem pure {Q : α → σ → Prop} {a : α} (h : Q a s) : Ensures s (Pure.pure a : StateT σ m α) Q := by
  rw [Ensures, StateT.run_pure]
  exact SatisfiesM.pure h

/-- What is done without the state leaves it as it is. -/
theorem lift_of_satisfies {P : α → Prop} {Q : α → σ → Prop} {x : m α} (hx : SatisfiesM P x) (h : ∀ a, P a → Q a s) :
    Ensures s (StateT.lift x) Q := by
  rw [Ensures, StateT.run_lift]
  exact hx.bind fun a ha => SatisfiesM.pure (h a ha)

/-- A computation that does not look at the state leaves it, whatever it returns. -/
theorem lift {Q : α → σ → Prop} {x : m α} (h : ∀ a, Q a s) : Ensures s (StateT.lift x) Q :=
  lift_of_satisfies SatisfiesM.trivial fun a _ => h a

/-- A note ensures what holds of the state with the note taken. -/
theorem note {Q : Unit → σ → Prop} {f : σ → σ} (h : Q () (f s)) : Ensures s (CatalogSync.note f : StateT σ m Unit) Q := by
  rw [Ensures, CatalogSync.note, StateT.run_modify]
  exact SatisfiesM.pure h

theorem imp {P Q : α → σ → Prop} {x : StateT σ m α} (h : Ensures s x P) (hPQ : ∀ a t, P a t → Q a t) : Ensures s x Q :=
  SatisfiesM.imp h fun {y} hy => hPQ y.1 y.2 hy

/-- What a computation ensures is there for the one after it. -/
theorem bind {P : α → σ → Prop} {Q : β → σ → Prop} {x : StateT σ m α} (h : Ensures s x P) {f : α → StateT σ m β}
    (hf : ∀ a t, P a t → Ensures t (f a) Q) : Ensures s (x >>= f) Q := by
  rw [Ensures, StateT.run_bind]
  exact SatisfiesM.bind h fun y hy => hf y.1 y.2 hy

/-- After a computation that does not look at the state, the state is as it was. -/
theorem lift_bind {Q : β → σ → Prop} {x : m α} {f : α → StateT σ m β} (h : ∀ a, Ensures s (f a) Q) :
    Ensures s (StateT.lift x >>= f) Q :=
  .bind (P := fun _ t => t = s) (.lift fun _ => rfl) fun a _ ht => ht ▸ h a

/-- Reporting one failure after the other changes the state as they do. -/
theorem forM {report : γ → StateT σ m Unit} {tell : σ → γ → σ} (h : ∀ s f, Ensures s (report f) fun _ t => t = tell s f)
    (fs : List γ) : Ensures s (fs.forM report) fun _ t => t = fs.foldl tell s := by
  rw [List.forM_eq_forM]
  induction fs generalizing s with
  | nil => exact pure rfl
  | cons f fs ih =>
    rw [List.forM_cons]
    refine (h s f).bind ?_
    rintro _ _ rfl
    exact ih

/-- A fallback that does not touch the state leaves it as it is. -/
theorem proceed (r : Outcome α) (fallback : m α) :
    Ensures s (r.proceed (StateT.lift fallback)) fun b t => t = s ∧ (b = none ↔ r.isFatal = true) := by
  have hlift : r.proceed (StateT.lift fallback : StateT σ m α) = StateT.lift (r.proceed fallback) := by
    rcases r with b | ⟨_ | b, fs⟩ | fs <;> ext <;> simp [Outcome.proceed]
  rw [hlift]
  exact lift_of_satisfies (r.satisfies_proceed fallback) fun b hb => ⟨rfl, hb⟩

end Ensures

end

/-- The chain with every step and every fallback taken to another monad. -/
def Chain.mapSteps (f : ∀ {β γ : Type}, Step m β γ → Step n β γ) (g : ∀ {γ : Type}, m γ → n γ) {α β : Type} :
    Chain m α β → Chain n α β
  | .nil => .nil
  | .snoc head step fallback => .snoc (head.mapSteps f g) (f step) (g fallback)

/-- A step that does not touch the state. -/
def Step.lifted (s : Step m α β) : Step (StateT σ m) α β := ⟨s.name, fun a => StateT.lift (s.apply a)⟩

/-- A chain that does not touch the state. -/
def Chain.lifted (c : Chain m α β) : Chain (StateT σ m) α β := c.mapSteps Step.lifted StateT.lift

/-- That every step of a chain comes to the step of another chain at its place, under its name, and so does every fallback. -/
inductive Chain.Erases : {α β : Type} → Chain (StateT σ m) α β → Chain m α β → Prop
  | nil {α : Type} : Chain.Erases (.nil : Chain (StateT σ m) α α) .nil
  | snoc {α β γ : Type} {head : Chain (StateT σ m) α β} {head' : Chain m α β} {step : Step (StateT σ m) β γ} {step' : Step m β γ}
      {fallback : StateT σ m γ} {fallback' : m γ} (hhead : head.Erases head') (hname : step.name = step'.name)
      (hstep : ∀ b, CatalogSync.Erases (step.apply b) (step'.apply b)) (hfallback : CatalogSync.Erases fallback fallback') :
      Chain.Erases (.snoc head step fallback) (.snoc head' step' fallback')

/-- That a pipeline comes to another one. -/
structure Pipeline.Erases (p : Pipeline (StateT σ m) α β) (q : Pipeline m α β) : Prop where
  name : p.name = q.name
  supplier : Option.Rel CatalogSync.Erases p.supplier q.supplier
  chain : p.chain.Erases q.chain
  sink : ∀ name f, CatalogSync.Erases (p.sink name f) (q.sink name f)

/-- The ways to call a pipeline. -/
inductive Pipeline.Call (α : Type) where
  | execute (seed : α)
  | run
  | executeOrSupply (seed : Option α)

/-- What a call does. -/
def Pipeline.call (p : Pipeline m α β) : Call α → m (Outcome β)
  | .execute seed => p.execute seed
  | .run => p.run
  | .executeOrSupply seed => p.executeOrSupply seed

/-- The seed of a call, if it brings one. -/
def Pipeline.Call.seed? : Call α → Option α
  | .execute seed => some seed
  | .run => none
  | .executeOrSupply seed => seed

/-- However a pipeline is called, it is run on a seed or else on a value of its supplier. -/
theorem Pipeline.call_eq_executeOrSupply (p : Pipeline m α β) (c : Call α) : p.call c = p.executeOrSupply c.seed? := by
  cases c <;> rfl

section

variable [LawfulMonad m]

namespace Chain

/-- A chain comes to another one if its steps do, each under its own name. -/
theorem erases_mapSteps {f : ∀ {β γ : Type}, Step m β γ → Step (StateT σ m) β γ}
    (hname : ∀ {β γ : Type} (s : Step m β γ), (f s).name = s.name)
    (hstep : ∀ {β γ : Type} (s : Step m β γ) b, CatalogSync.Erases ((f s).apply b) (s.apply b)) (c : Chain m α β) :
    (c.mapSteps f StateT.lift).Erases c := by
  induction c with
  | nil => exact .nil
  | snoc head step fallback ih => exact .snoc ih (hname step) (hstep step) (.lift fallback)

/-- A chain that does not look at a state comes to itself. -/
theorem erases_lifted (c : Chain m α β) : (c.lifted : Chain (StateT σ m) α β).Erases c :=
  erases_mapSteps (fun _ => rfl) (fun s b => .lift (s.apply b)) c

/-- One more step, if the runs before it come to each other. -/
theorem erases_run_snoc {report : Failure → StateT σ m Unit} {report' : Failure → m Unit}
    (hreport : ∀ f, CatalogSync.Erases (report f) (report' f)) {head : Chain (StateT σ m) α β} {head' : Chain m α β} {a : α}
    (hhead : CatalogSync.Erases (head.run report a) (head'.run report' a)) {step : Step (StateT σ m) β γ} {step' : Step m β γ}
    (hname : step.name = step'.name) (hstep : ∀ b, CatalogSync.Erases (step.apply b) (step'.apply b)) {fallback : StateT σ m γ}
    {fallback' : m γ} (hfallback : CatalogSync.Erases fallback fallback') :
    CatalogSync.Erases ((snoc head step fallback).run report a) ((snoc head' step' fallback').run report' a) := by
  rw [run_snoc, run_snoc, hname]
  refine hhead.bind ?_
  rintro ⟨_ | b, recorded⟩
  · exact .pure _
  refine (hstep b).bind fun r => (CatalogSync.Erases.forM hreport _).bind fun _ => ?_
  exact (CatalogSync.Erases.proceed _ hfallback).bind fun _ => .pure _

/-- What a run ensures with one more step: the step adds its failures under its name, which are reported, and there is no output if it
is fatal. -/
theorem ensures_run_snoc {s : σ} {P : Option β × List Failure → σ → Prop} {Q : Option γ × List Failure → σ → Prop}
    {report : Failure → StateT σ m Unit} {tell : σ → Failure → σ} (hreport : ∀ s f, Ensures s (report f) fun _ t => t = tell s f)
    {head : Chain (StateT σ m) α β} {step : Step (StateT σ m) β γ} {fallback : m γ} {a : α} (hhead : Ensures s (head.run report a) P)
    (hstop : ∀ recorded t, P (none, recorded) t → Q (none, recorded) t)
    (hstep : ∀ b recorded t, P (some b, recorded) t → Ensures t (step.apply b) fun r t => ∀ c, (c = none ↔ r.isFatal = true) →
      Q (c, recorded ++ (r.attributedTo step.name).failures) ((r.attributedTo step.name).failures.foldl tell t)) :
    Ensures s ((snoc head step (StateT.lift fallback)).run report a) Q := by
  rw [run_snoc]
  refine hhead.bind ?_
  rintro ⟨_ | b, recorded⟩ t h
  · exact .pure (hstop recorded t h)
  refine (hstep b recorded t h).bind fun r t hr => (Ensures.forM hreport _).bind ?_
  rintro _ _ rfl
  refine (Ensures.proceed _ fallback).bind ?_
  rintro c _ ⟨rfl, hc⟩
  exact .pure (hr c (by simpa using hc))

/-- A run comes to the run of the other chain, step by step. -/
theorem Erases.run {report : Failure → StateT σ m Unit} {report' : Failure → m Unit}
    (hreport : ∀ f, CatalogSync.Erases (report f) (report' f)) {c : Chain (StateT σ m) α β} {c' : Chain m α β} (h : c.Erases c')
    (a : α) : CatalogSync.Erases (c.run report a) (c'.run report' a) := by
  induction h with
  | nil => exact .pure _
  | snoc _ hname hstep hfallback ih => exact erases_run_snoc hreport ih hname hstep hfallback

end Chain

namespace Pipeline.Erases

variable {p : Pipeline (StateT σ m) α β} {q : Pipeline m α β}

/-- Pipelines that come to each other do so when they are executed. -/
theorem execute (h : p.Erases q) (seed : α) : CatalogSync.Erases (p.execute seed) (q.execute seed) :=
  (h.chain.run (fun f => h.name ▸ h.sink p.name f) seed).bind fun _ => .pure _

/-- A pipeline comes to the other one, however it is called. -/
theorem call (h : p.Erases q) (c : Call α) : CatalogSync.Erases (p.call c) (q.call c) := by
  have hsupplier := h.supplier
  rw [call_eq_executeOrSupply, call_eq_executeOrSupply]
  unfold executeOrSupply
  cases c.seed? with
  | some seed => exact h.execute seed
  | none =>
    revert hsupplier
    cases p.supplier <;> cases q.supplier <;> intro hsupplier
    · rw [show p.unseeded = q.unseeded by rw [Pipeline.unseeded, Pipeline.unseeded, h.name], h.name]
      exact (h.sink _ _).bind fun _ => .pure _
    · nomatch hsupplier
    · nomatch hsupplier
    · cases hsupplier with
      | some hsupply => exact hsupply.bind h.execute

end Pipeline.Erases

end

end CatalogSync
