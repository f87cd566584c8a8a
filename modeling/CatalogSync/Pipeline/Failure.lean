import CatalogSync.Json.Decode

/-!
# Failures

A failure has a severity, a message and, once it is known, the name of the step it arose in. Severities are ordered, so that the
gravest of several failures is their greatest.
-/

namespace CatalogSync

/-- How grave a failure is, from the least to the most. -/
inductive Severity where
  /-- The output is usable. -/
  | info
  /-- The output is degraded and the work goes on. -/
  | warning
  /-- The work has to stop. -/
  | fatal
  deriving DecidableEq, Repr, Inhabited

namespace Severity

/-- The written name of a severity. -/
def name : Severity → String
  | .info => "info"
  | .warning => "warning"
  | .fatal => "fatal"

/-- Every severity, in order. -/
def all : List Severity := [.info, .warning, .fatal]

/-- The place of a severity in their order. -/
def rank : Severity → Nat
  | .info => 0
  | .warning => 1
  | .fatal => 2

/-- Whether a severity is at most another. -/
def le (a b : Severity) : Bool := a.rank ≤ b.rank

/-- The graver of two severities. -/
def max (a b : Severity) : Severity := if a.le b then b else a

/-- The gravest of several severities. -/
def gravest? : List Severity → Option Severity
  | [] => none
  | s :: rest => some (rest.foldl max s)

/-- Reads a severity from its name. -/
def decode : Decoder Severity := Decoder.variant (all.map fun s => (s.name, s))

end Severity

/-- A failure recorded while a pipeline runs. -/
structure Failure where
  severity : Severity
  step : Option String
  message : String
  deriving DecidableEq, Repr, Inhabited

namespace Failure

/-- A failure that is not yet tied to a step. -/
def ofSeverity (severity : Severity) (message : String) : Failure := ⟨severity, none, message⟩

/-- A failure that stops the work. -/
def fatal (message : String) : Failure := ofSeverity .fatal message

/-- A failure that the work goes on after. -/
def warning (message : String) : Failure := ofSeverity .warning message

/-- The failure tied to a step, whatever step it was tied to. -/
def withStep (f : Failure) (step : String) : Failure := { f with step := some step }

/-- The failure tied to a step unless it is tied to one already. -/
def attributedTo (f : Failure) (step : String) : Failure := { f with step := some (f.step.getD step) }

/-- Whether a failure stops the work. -/
def isFatal (f : Failure) : Bool := f.severity == .fatal

/-- The text of a failure. -/
def display (f : Failure) : String :=
  "[" ++ f.severity.name ++ "] " ++ (match f.step with
    | some step => step ++ ": "
    | none => "") ++ f.message

/-- A failure as JSON; a step that is not known is left out. -/
def toJson (f : Failure) : Json :=
  .obj ([("message", .str f.message), ("severity", .str f.severity.name)] ++
    f.step.toList.map fun s => ("step", .str s))

/-- The fields of a failure seen while one is read. -/
structure Parts where
  severity : Option Severity
  step : Option String
  message : Option String

/-- The fields of a failure in order. -/
def fields : List (Decoder.Field Parts) := [
  ⟨"severity", false, fun v p => do return { p with severity := ← Severity.decode v }⟩,
  ⟨"step", true, fun v p => do return { p with step := ← Decoder.optional Decoder.string v }⟩,
  ⟨"message", false, fun v p => do return { p with message := ← Decoder.string v }⟩]

/-- Reads a failure. -/
def decode : Decoder Failure := fun v => do
  let p ← Decoder.record "PipelineFailure" fields ⟨none, none, none⟩ v
  return ⟨← Decoder.need "severity" p.severity, p.step, ← Decoder.need "message" p.message⟩

end Failure

end CatalogSync
