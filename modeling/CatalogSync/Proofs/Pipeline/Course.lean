import Mathlib
import CatalogSync.Pipeline.Basic
import CatalogSync.Proofs.Pipeline.Merging

/-!
# Pipelines as folds

`Chain` nests the steps of a pipeline with the last one outside. Here they stand in the order in which they run (`Steps`), and
`Steps.follow` runs them as a fold from left to right that keeps what every applied step came to (`Course`).
`Pipeline.execute_eq_follow` says that executing a pipeline is this fold, in every monad, so with the same effects in the same
order, and reads the outcome off the course.
-/

namespace CatalogSync

/-! ## Steps and passages -/

/-- Steps in the order in which they run, each with its fallback. -/
inductive Steps (m : Type → Type) : Type → Type → Type 1 where
  | nil {α : Type} : Steps m α α
  | cons {α β γ : Type} (step : Step m α β) (fallback : m β) (rest : Steps m β γ) : Steps m α γ

/-- The steps of a chain, followed by others. -/
def Chain.stepsThen {m : Type → Type} {α β γ : Type} : Chain m α β → Steps m β γ → Steps m α γ
  | .nil, rest => rest
  | .snoc head step fallback, rest => head.stepsThen (.cons step fallback rest)

/-- The steps of a chain. -/
def Chain.steps {m : Type → Type} {α β : Type} (c : Chain m α β) : Steps m α β := c.stepsThen .nil

/-- What an applied step came to: its failures, each with a step name, and whether the step was fatal. -/
structure Passage where
  step : String
  failures : List Failure
  fatal : Bool

/-- What the outcome of a step comes to: a failure keeps the step name it has, and gets that of the step if it has none. -/
def Passage.of {β : Type} (step : String) (r : Outcome β) : Passage where
  step := step
  failures := r.failures.map fun f => { f with step := some (f.step.getD step) }
  fatal := r.isFatal

section

variable {β : Type} (step : String) (fs : List Failure)

/-- A success has no failures. -/
theorem Passage.of_success (b : β) : Passage.of step (.success b) = ⟨step, [], false⟩ := rfl

/-- A recoverable outcome has failures, each with a step name, and goes on. -/
theorem Passage.of_recoverable (b : Option β) :
    Passage.of step (.recoverable b fs) = ⟨step, fs.map (·.attributedTo step), false⟩ := rfl

/-- A fatal outcome has failures, each with a step name, and goes no further. -/
theorem Passage.of_fatal : Passage.of step (.fatal (α := β) fs) = ⟨step, fs.map (·.attributedTo step), true⟩ := rfl

end

/-! ## Courses -/

/-- The course of a run: what the applied steps came to, in order, and the value it ended with. A fatal step is the last one, and
there is a final value exactly if no step was fatal. -/
structure Course (β : Type) where
  passages : List Passage
  final : Option β
  last_of_fatal : ∀ p ∈ passages.dropLast, p.fatal = false
  final_eq_none_iff : final = none ↔ ∃ p ∈ passages, p.fatal = true

namespace Course

variable {β : Type}

/-- The course of a run without steps. -/
def ended (b : β) : Course β where
  passages := []
  final := some b
  last_of_fatal := by simp
  final_eq_none_iff := by simp

/-- The course of a run that its first step stopped. -/
def halted (p : Passage) (h : p.fatal = true) : Course β where
  passages := [p]
  final := none
  last_of_fatal := by simp
  final_eq_none_iff := by simp [h]

/-- A course with one more step before it. -/
def after (p : Passage) (h : ¬p.fatal = true) (c : Course β) : Course β where
  passages := p :: c.passages
  final := c.final
  last_of_fatal := by
    intro q hq
    cases hc : c.passages with
    | nil => simp [hc] at hq
    | cons r rs =>
      rw [hc, List.dropLast_cons_cons, List.mem_cons] at hq
      rcases hq with rfl | hq
      · exact Bool.eq_false_iff.2 h
      · exact c.last_of_fatal q (hc ▸ hq)
  final_eq_none_iff := by simp [c.final_eq_none_iff, h]

/-- The failures of the applied steps, in order. -/
def failures (c : Course β) : List Failure := c.passages.flatMap Passage.failures

/-- The outcome of a course. -/
def outcome (c : Course β) : Outcome β :=
  match c.final with
  | none => .fatal c.failures
  | some b => if c.failures = [] then .success b else .recoverable (some b) c.failures

/-- The outcome is fatal exactly if some step was, and then has all failures. -/
theorem outcome_eq_fatal_iff (c : Course β) (fs : List Failure) :
    c.outcome = .fatal fs ↔ (∃ p ∈ c.passages, p.fatal = true) ∧ fs = c.failures := by
  rw [← c.final_eq_none_iff]
  unfold outcome
  cases c.final with
  | none => simp [eq_comm]
  | some b => by_cases h : c.failures = [] <;> simp [h]

/-- The outcome is a success exactly if the run came to its end without a failure. -/
theorem outcome_eq_success_iff (c : Course β) (b : β) : c.outcome = .success b ↔ c.final = some b ∧ c.failures = [] := by
  unfold outcome
  cases c.final with
  | none => simp
  | some b => by_cases h : c.failures = [] <;> simp [h]

/-- The outcome is recoverable exactly if the run came to its end with failures, and then has all of them and the final value. -/
theorem outcome_eq_recoverable_iff (c : Course β) (x : Option β) (fs : List Failure) :
    c.outcome = .recoverable x fs ↔ (∃ b, c.final = some b ∧ x = some b) ∧ fs = c.failures ∧ c.failures ≠ [] := by
  unfold outcome
  cases c.final with
  | none => simp
  | some b => by_cases h : c.failures = [] <;> simp [h, eq_comm]

end Course

namespace Steps

variable {m : Type → Type} [Monad m]

/-! ## Following the steps -/

/-- Runs steps from left to right: applies the first to the input, reports its failures, and stops if it is fatal; else the others
get its content, or the value of its fallback if there is no content. -/
def follow (report : Failure → m Unit) {α β : Type} : Steps m α β → α → m (Course β)
  | nil, a => return .ended a
  | cons step fallback rest, a => do
    let r ← step.apply a
    let p := Passage.of step.name r
    p.failures.forM report
    if h : p.fatal = true then return .halted p h
    else
      let b ← match r.content? with
        | some b => pure b
        | none => fallback
      return .after p h (← rest.follow report b)

end Steps

namespace Course

variable {β : Type}

/-! ## What running a chain keeps -/

/-- What running a chain keeps of a course: the final value and the failures. -/
def summary (c : Course β) : Option β × List Failure := (c.final, c.failures)

/-- The summary of a course with failures before it. -/
def afterFailures (failures : List Failure) (x : Option β × List Failure) : Option β × List Failure := (x.1, failures ++ x.2)

theorem afterFailures_append (fs gs : List Failure) (x : Option β × List Failure) :
    afterFailures fs (afterFailures gs x) = afterFailures (fs ++ gs) x := by
  simp [afterFailures]

/-- A step that was not fatal puts its failures in front of those after it. -/
theorem summary_after (p : Passage) (h : ¬p.fatal = true) (c : Course β) :
    (after p h c).summary = afterFailures p.failures c.summary := by
  simp [summary, after, failures, afterFailures]

/-- A fatal step leaves its own failures and no value. -/
theorem summary_halted (p : Passage) (h : p.fatal = true) : (halted (β := β) p h).summary = (none, p.failures) := by
  simp [summary, halted, failures]

/-- The outcome of a chain is that of its course. -/
theorem outcome_summary (c : Course β) : Chain.outcome c.summary = c.outcome := by
  unfold outcome summary Chain.outcome
  cases hf : c.final <;> cases hs : c.failures <;> simp

end Course

/-! ## Chains -/

namespace Chain

open Course

variable {m : Type → Type} [Monad m] [LawfulMonad m] {α β γ : Type}

/-- The first step of the fold, as far as the summary goes. -/
theorem summary_follow_cons (report : Failure → m Unit) (step : Step m α β) (fallback : m β) (rest : Steps m β γ) (a : α) :
    summary <$> (Steps.cons step fallback rest).follow report a = (do
      let r ← step.apply a
      let p := Passage.of step.name r
      p.failures.forM report
      if p.fatal = true then return (none, p.failures)
      else
        let b ← match r.content? with
          | some b => pure b
          | none => fallback
        afterFailures p.failures <$> (summary <$> rest.follow report b)) := by
  simp only [Steps.follow, map_bind]
  apply bind_congr
  intro r
  apply bind_congr
  intro _
  by_cases h : (Passage.of step.name r).fatal = true
  · rw [dif_pos h, if_pos h, map_pure, summary_halted]
  · rw [dif_neg h, if_neg h]
    cases r.content? <;> simp [summary_after]

/-- Following the steps of a chain and others after them is running the chain, and then following the others if it did not stop. -/
theorem summary_follow_stepsThen (report : Failure → m Unit) (c : Chain m α β) (rest : Steps m β γ) (a : α) :
    summary <$> (c.stepsThen rest).follow report a = (do
      match ← c.run report a with
      | (none, failures) => return (none, failures)
      | (some b, failures) => afterFailures failures <$> (summary <$> rest.follow report b)) := by
  induction c with
  | nil => simp [stepsThen, run, afterFailures]
  | snoc head step fallback ih =>
    rw [stepsThen, ih]
    simp only [run, bind_assoc]
    apply bind_congr
    rintro ⟨_ | b, recorded⟩
    · simp
    · dsimp only
      rw [summary_follow_cons, map_bind, bind_assoc]
      apply bind_congr
      intro r
      rcases r with c | ⟨_ | c, failures⟩ | failures
      · simp [Passage.of_success, Outcome.content?, Outcome.attributedTo, afterFailures_append]
      · simp [Passage.of_recoverable, Outcome.content?, Outcome.attributedTo, record, afterFailures_append]
      · simp [Passage.of_recoverable, Outcome.content?, Outcome.attributedTo, record, afterFailures_append]
      · simp [Passage.of_fatal, Outcome.attributedTo, record, afterFailures]

/-- Running a chain is following its steps, as far as the summary goes. -/
theorem run_eq_summary_follow (report : Failure → m Unit) (c : Chain m α β) (a : α) :
    c.run report a = summary <$> c.steps.follow report a := by
  rw [steps, summary_follow_stepsThen]
  conv => lhs; rw [← bind_pure (c.run report a)]
  apply bind_congr
  rintro ⟨_ | b, failures⟩
  · rfl
  · simp [Steps.follow, summary, ended, afterFailures, Course.failures]

end Chain

/-- The value that the work goes on with after an outcome: its content, else that of the fallback, and none if it is fatal. -/
def Outcome.proceed {m : Type → Type} [Monad m] {β : Type} (r : Outcome β) (fallback : m β) : m (Option β) :=
  match r with
  | .success b => return some b
  | .recoverable (some b) _ => return some b
  | .recoverable none _ => some <$> fallback
  | .fatal _ => return none

section

variable {β : Type} (x : Option β × List Failure)

/-- The failures of a chain's outcome are those it recorded. -/
@[simp] theorem Chain.failures_outcome : (outcome x).failures = x.2 := by
  rcases x with ⟨_ | b, _ | ⟨f, fs⟩⟩ <;> rfl

/-- Its content is the value that the chain ended with. -/
@[simp] theorem Chain.content?_outcome : (outcome x).content? = x.1 := by
  rcases x with ⟨_ | b, _ | ⟨f, fs⟩⟩ <;> rfl

/-- It is fatal if there is no such value. -/
@[simp] theorem Chain.isFatal_outcome : (outcome x).isFatal = x.1.isNone := by
  rcases x with ⟨_ | b, _ | ⟨f, fs⟩⟩ <;> rfl

/-- After a run no fallback is needed. -/
@[simp] theorem Chain.proceed_outcome {m : Type → Type} [Monad m] (fallback : m β) :
    (outcome x).proceed fallback = pure x.1 := by
  rcases x with ⟨_ | b, _ | ⟨f, fs⟩⟩ <;> rfl

end

/-! ## One more step -/

/-- The last step of a chain, whatever it comes to: its failures are named, reported and recorded, and then the fallback is asked
for if it is needed. -/
theorem Chain.run_snoc {m : Type → Type} [Monad m] [LawfulMonad m] {α β γ : Type} (report : Failure → m Unit) (head : Chain m α β)
    (step : Step m β γ) (fallback : m γ) (a : α) :
    (snoc head step fallback).run report a = (do
      match ← head.run report a with
      | (none, recorded) => return (none, recorded)
      | (some b, recorded) =>
        let r := (← step.apply b).attributedTo step.name
        r.failures.forM report
        return (← r.proceed fallback, recorded ++ r.failures)) := by
  rw [run]
  apply bind_congr
  rintro ⟨_ | b, recorded⟩
  · rfl
  · apply bind_congr
    intro r
    rcases r.attributedTo step.name with c | ⟨_ | c, fs⟩ | fs <;> simp [Outcome.proceed, Outcome.failures, record]

/-- The work goes on unless the outcome is fatal. -/
theorem Outcome.satisfies_proceed {m : Type → Type} [Monad m] [LawfulMonad m] {β : Type} (r : Outcome β) (fallback : m β) :
    SatisfiesM (fun b => b = none ↔ r.isFatal = true) (r.proceed fallback) := by
  rcases r with b | ⟨_ | b, fs⟩ | fs
  · exact SatisfiesM.pure (by simp [isFatal])
  · exact SatisfiesM.trivial.map fun {b} _ => by simp [isFatal]
  · exact SatisfiesM.pure (by simp [isFatal])
  · exact SatisfiesM.pure (by simp [isFatal])

/-- What a run satisfies with one more step: the step adds its failures under its name, and there is no output if it is fatal. -/
theorem Chain.satisfies_run_snoc {m : Type → Type} [Monad m] [LawfulMonad m] {α β γ : Type} {P : Option β × List Failure → Prop}
    {Q : Option γ × List Failure → Prop} {report : Failure → m Unit} {head : Chain m α β} {step : Step m β γ} {fallback : m γ} {a : α}
    (hhead : SatisfiesM P (head.run report a)) (hstop : ∀ recorded, P (none, recorded) → Q (none, recorded))
    (hstep : ∀ b recorded, P (some b, recorded) → SatisfiesM (fun r => ∀ c, (c = none ↔ r.isFatal = true) →
      Q (c, recorded ++ (r.attributedTo step.name).failures)) (step.apply b)) :
    SatisfiesM Q ((snoc head step fallback).run report a) := by
  rw [run_snoc]
  refine hhead.bind ?_
  rintro ⟨_ | b, recorded⟩ h
  · exact SatisfiesM.pure (hstop recorded h)
  refine (hstep b recorded h).bind fun r hr => SatisfiesM.trivial.bind fun _ _ => ?_
  exact (Outcome.satisfies_proceed _ fallback).bind fun c hc => SatisfiesM.pure (hr c (by simpa using hc))

namespace Pipeline

variable {α β : Type}

/-- Executing a pipeline is the fold over its steps from left to right, and the outcome is that of the course: fatal exactly if
some step was fatal, with all failures recorded up to there; else a success with the final value exactly if nothing was recorded;
else recoverable with the final value and all failures. Without steps it is a success with the seed. -/
theorem execute_eq_follow {m : Type → Type} [Monad m] [LawfulMonad m] (p : Pipeline m α β) (seed : α) :
    p.execute seed = Course.outcome <$> p.chain.steps.follow (p.sink p.name) seed ∧
    (∀ c : Course β,
      (∀ fs, c.outcome = .fatal fs ↔ (∃ q ∈ c.passages, q.fatal = true) ∧ fs = c.failures) ∧
      (∀ b, c.outcome = .success b ↔ c.final = some b ∧ c.failures = []) ∧
      ∀ x fs, c.outcome = .recoverable x fs ↔ (∃ b, c.final = some b ∧ x = some b) ∧ fs = c.failures ∧ c.failures ≠ []) ∧
    ∀ (name : String) (sink : String → Failure → m Unit), (start name sink).execute seed = pure (.success seed) := by
  refine ⟨?_, fun c => ⟨c.outcome_eq_fatal_iff, c.outcome_eq_success_iff, c.outcome_eq_recoverable_iff⟩, fun name sink => ?_⟩
  · rw [execute, Chain.run_eq_summary_follow]
    simp [Course.outcome_summary]
  · simp [execute, start, Chain.run, Chain.outcome]

/-- A pipeline of four steps that notes what it does: the second has no content and falls back, the third is fatal under a step
name of its own, and the fourth is never applied. -/
theorem execute_eq_follow_of_four :
    let note (s : String) : StateM (List String) Unit := modify (· ++ [s])
    let p : Pipeline (StateM (List String)) Nat Nat :=
      ((((start "p" fun name f => note (name ++ " reports " ++ f.message)).step
        ⟨"double", fun n => do note "double"; return .success (2 * n)⟩ (pure 0)).step
        ⟨"lose", fun _ => do note "lose"; return .recoverable none [.warning "lost"]⟩ (do note "fallback"; return 7)).step
        ⟨"stop", fun n => do note ("stop " ++ toString n); return .fatal [(Failure.fatal "stopped").withStep "inner"]⟩ (pure 0)).step
        ⟨"never", fun n => do note "never"; return .success n⟩ (pure 0)
    p.execute 3 = Course.outcome <$> p.chain.steps.follow (p.sink p.name) 3 ∧
    (p.execute 3).run [] =
      (.fatal [(Failure.warning "lost").withStep "lose", (Failure.fatal "stopped").withStep "inner"],
        ["double", "lose", "p reports lost", "fallback", "stop 7", "p reports stopped"]) := by
  intro note p
  exact ⟨(execute_eq_follow p 3).1, by rfl⟩

end Pipeline

end CatalogSync
