import CatalogSync.Resource.Reference

/-!
# Errors of the model

What can be wrong with an access URL, a setting or a snapshot. Only a bad URL leaves the current work able to go on.
-/

namespace CatalogSync

/-- An error raised by the model's own types. -/
inductive ModelError where
  /-- A text that is no URL a service can be reached at. -/
  | invalidAccessUrl (url reason : String)
  /-- Something set up wrongly. -/
  | configuration (reason : String)
  /-- A reference that occurs twice in a snapshot. -/
  | duplicateReference (reference : Reference)
  /-- Something else that can never be the case was the case. -/
  | invariant (reason : String)
  deriving DecidableEq, Repr

namespace ModelError

/-- The wording of an error. -/
def message : ModelError → String
  | invalidAccessUrl url reason => "Invalid access URL '" ++ url ++ "': " ++ reason
  | configuration reason => "Invalid configuration: " ++ reason
  | duplicateReference r =>
    "Internal invariant violated: duplicate resource reference " ++ r.display ++ " in snapshot"
  | invariant reason => "Internal invariant violated: " ++ reason

/-- Whether an error has to stop the work it arises in. -/
def isFatal : ModelError → Bool
  | invalidAccessUrl _ _ => false
  | _ => true

end ModelError

end CatalogSync
