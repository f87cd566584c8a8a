import CatalogSync.Pipeline.Step

/-!
# Pipelines

A pipeline is a chain of steps, the output of each being the input of the next. Running it records the failures of every step,
reports each of them to a sink at once, and stops at the first step that is fatal. After a recoverable failure without content
the next step gets the fallback of the step that failed.
-/

namespace CatalogSync

/-- Steps one after the other, each with its fallback. -/
inductive Chain (m : Type → Type) : Type → Type → Type 1 where
  /-- No step: the input is the output. -/
  | nil {α : Type} : Chain m α α
  /-- A chain and one more step after it. -/
  | snoc {α β γ : Type} (head : Chain m α β) (step : Step m β γ) (fallback : m γ) : Chain m α γ

namespace Chain

variable {m : Type → Type} [Monad m] {α β : Type}

/-- Reports failures one by one and adds them to those recorded. -/
def record (report : Failure → m Unit) (recorded failures : List Failure) : m (List Failure) := do
  failures.forM report
  return recorded ++ failures

/-- Runs the steps in order from an input: the last output, none if a step was fatal, and the failures recorded. -/
def run (report : Failure → m Unit) {β : Type} : Chain m α β → α → m (Option β × List Failure)
  | nil, a => return (some a, [])
  | snoc head step fallback, a => do
    match ← head.run report a with
    | (none, recorded) => return (none, recorded)
    | (some b, recorded) =>
      match (← step.apply b).attributedTo step.name with
      | .success c => return (some c, recorded)
      | .recoverable (some c) failures => return (some c, ← record report recorded failures)
      | .recoverable none failures => do
        let recorded ← record report recorded failures
        return (some (← fallback), recorded)
      | .fatal failures => return (none, ← record report recorded failures)

/-- The outcome of a run: fatal without an output, else a success exactly if nothing was recorded. -/
def outcome : Option β × List Failure → Outcome β
  | (none, failures) => .fatal failures
  | (some b, []) => .success b
  | (some b, f :: fs) => .recoverable (some b) (f :: fs)

end Chain

/-- A named chain of steps with a sink for failures and, perhaps, a supplier of inputs. -/
structure Pipeline (m : Type → Type) (α β : Type) where
  name : String
  supplier : Option (m α)
  chain : Chain m α β
  /-- Takes the pipeline's name and a failure. -/
  sink : String → Failure → m Unit

namespace Pipeline

variable {m : Type → Type} [Monad m] {α β γ : Type}

/-- A pipeline without steps. -/
def start (name : String) (sink : String → Failure → m Unit) : Pipeline m α α := ⟨name, none, .nil, sink⟩

/-- The pipeline with one more step, which falls back to the given value. -/
def step (p : Pipeline m α β) (s : Step m β γ) (fallback : m γ) : Pipeline m α γ :=
  ⟨p.name, p.supplier, .snoc p.chain s fallback, p.sink⟩

/-- Runs every step on an input. -/
def execute (p : Pipeline m α β) (seed : α) : m (Outcome β) :=
  return Chain.outcome (← p.chain.run (p.sink p.name) seed)

/-- The failure of a run that has nothing to start from. -/
def unseeded (p : Pipeline m α β) : Failure :=
  .fatal ("pipeline '" ++ p.name ++ "' has neither a seed value nor a supplier")

/-- Runs on a seed if there is one, else on a value of the supplier. With neither, no step runs and the one fatal failure is
reported and returned. -/
def executeOrSupply (p : Pipeline m α β) (seed : Option α) : m (Outcome β) :=
  match seed, p.supplier with
  | some a, _ => p.execute a
  | none, some supply => do p.execute (← supply)
  | none, none => do
    p.sink p.name p.unseeded
    return .fatal [p.unseeded]

/-- Runs on a value of the supplier. -/
def run (p : Pipeline m α β) : m (Outcome β) := p.executeOrSupply none

/-- A whole pipeline as one step. -/
def asStep (p : Pipeline m α β) : Step m α β := ⟨p.name, p.execute⟩

/-- The text that describes a pipeline. -/
def describe (p : Pipeline m α β) : String :=
  "Pipeline \x7b name: " ++ Text.quoted p.name ++ ", has_supplier: " ++ toString p.supplier.isSome ++ ", .. \x7d"

end Pipeline

/-- How a failure is logged: level, pipeline, step and message. -/
structure LogLine where
  level : String
  pipeline : String
  step : String
  message : String
  deriving DecidableEq, Repr

/-- The log line of a failure: its severity sets the level. -/
def Failure.logLine (pipeline : String) (f : Failure) : LogLine where
  level := match f.severity with
    | .fatal => "error"
    | .warning => "warn"
    | .info => "info"
  pipeline := pipeline
  step := f.step.getD "<pipeline>"
  message := f.message

end CatalogSync
