import CatalogSync.Pipeline.Outcome

/-!
# Steps

A step is one stage of a pipeline: it has a name, under which its failures are recorded, and it takes an input to an outcome with
effects in a monad. Steps on collections are built from a step on elements.
-/

namespace CatalogSync

/-- One stage of a pipeline. -/
structure Step (m : Type → Type) (α β : Type) where
  name : String
  apply : α → m (Outcome β)

namespace Step

variable {m : Type → Type} [Monad m] {α β κ : Type}

/-- A step that is a plain function. -/
def ofFn (name : String) (f : α → Outcome β) : Step m α β := ⟨name, fun a => pure (f a)⟩

/-- Keeps the elements that satisfy a test. -/
def filter (name : String) (keep : α → Bool) : Step m (List α) (List α) :=
  ofFn name fun items => .success (items.filter keep)

/-- Applies a step to every element and merges the outcomes, each tied to the step. -/
def feeder (inner : Step m α β) : Step m (List α) (List β) where
  name := inner.name
  apply items := do
    let rs ← items.mapM inner.apply
    return Outcome.merge (rs.map (·.attributedTo inner.name))

/-- A finite map as pairs with different keys. -/
def ofPairs [BEq κ] (pairs : List (κ × β)) : List (κ × β) :=
  pairs.foldl (fun acc (k, b) => acc.filter (fun p => !(p.1 == k)) ++ [(k, b)]) []

/-- Applies a step to every element and keys the contents by their elements. Elements without content are left out; of two with
one key the later counts. -/
def zipper [BEq κ] (inner : Step m α β) (key : α → κ) : Step m (List α) (List (κ × β)) where
  name := inner.name
  apply items := do
    let rs ← items.mapM fun a => return ((← inner.apply a).map fun b => (key a, b)).attributedTo inner.name
    return (Outcome.merge rs).map ofPairs

end Step

end CatalogSync
