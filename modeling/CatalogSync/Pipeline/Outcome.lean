import CatalogSync.Pipeline.Failure

/-!
# Outcomes

A step, or a whole pipeline, ends in one of three ways: with success and content; with failures that the work goes on after, and
perhaps content; or with failures that stop the work. `merge` brings the outcomes of many elements together: the gravest way
wins, and failures are kept in order.
-/

namespace CatalogSync

/-- How a step or a pipeline ended. -/
inductive Outcome (α : Type) where
  | success (content : α)
  | recoverable (content : Option α) (failures : List Failure)
  | fatal (failures : List Failure)
  deriving DecidableEq, Repr, Inhabited

namespace Outcome

variable {α β : Type}

/-- The outcome of one failure: it stops the work exactly if the failure is fatal. -/
def ofFailure (content : Option α) (f : Failure) : Outcome α :=
  if f.isFatal then .fatal [f] else .recoverable content [f]

/-- Whether the outcome is a success. -/
def isSuccess : Outcome α → Bool
  | success _ => true
  | _ => false

/-- Whether there were failures that the work goes on after. -/
def isRecoverable : Outcome α → Bool
  | recoverable _ _ => true
  | _ => false

/-- Whether the work has to stop. -/
def isFatal : Outcome α → Bool
  | fatal _ => true
  | _ => false

/-- The failures of an outcome, in order. -/
def failures : Outcome α → List Failure
  | success _ => []
  | recoverable _ fs => fs
  | fatal fs => fs

/-- The content of an outcome, if it has any. -/
def content? : Outcome α → Option α
  | success a => some a
  | recoverable a _ => a
  | fatal _ => none

/-- The outcome with its content transformed. -/
def map (f : α → β) : Outcome α → Outcome β
  | success a => success (f a)
  | recoverable a fs => recoverable (a.map f) fs
  | fatal fs => fatal fs

/-- The outcome with every failure tied to a step that is not tied to one already. -/
def attributedTo (step : String) : Outcome α → Outcome α
  | success a => success a
  | recoverable a fs => recoverable a (fs.map (·.attributedTo step))
  | fatal fs => fatal (fs.map (·.attributedTo step))

/-- The outcomes of many elements as one: fatal if one of them is, else a success if there is no failure at all, else
recoverable; with every content that is there and every failure, in order. -/
def merge (rs : List (Outcome α)) : Outcome (List α) :=
  let failures := rs.flatMap failures
  if rs.any isFatal then fatal failures
  else
    let contents := rs.filterMap content?
    if failures.isEmpty then success contents else recoverable (some contents) failures

/-- The gravest severity among the failures. -/
def gravest? (r : Outcome α) : Option Severity := Severity.gravest? (r.failures.map Failure.severity)

end Outcome

end CatalogSync
