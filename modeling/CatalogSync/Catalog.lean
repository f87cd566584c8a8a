import CatalogSync.AccessUrl
import CatalogSync.ChangeSet

/-!
# The catalog

The catalog holds, for each service, one content for each reference, ordered by reference. A change set is applied by removing
first and adding then; a service without entries has no place in it.
-/

namespace CatalogSync

/-- The contents of one service by their references, in increasing order of reference. -/
abbrev Shelf := List Entry

namespace Shelf

/-- The shelf without a reference. -/
def erase (s : Shelf) (r : Reference) : Shelf := List.filter (fun e => !(e.reference == r)) s

/-- The shelf with an entry in the place of its reference. -/
def insert (s : Shelf) (e : Entry) : Shelf :=
  match s with
  | [] => [e]
  | x :: rest =>
    match Reference.compare e.reference x.reference with
    | .lt => e :: x :: rest
    | .eq => e :: rest
    | .gt => x :: insert rest e

/-- The shelf after the removals and then the additions of a change set. -/
def apply (s : Shelf) (c : ResourceChanges) : Shelf := c.toAdd.foldl insert (c.toRemove.foldl erase s)

end Shelf

/-- The entries of services by their URLs. -/
structure Catalog where
  shelves : List (AccessUrl × Shelf)
  deriving Inhabited

namespace Catalog

/-- The catalog without entries. -/
def empty : Catalog := ⟨[]⟩

/-- The entries of a service, ordered by reference. -/
def entries (c : Catalog) (service : AccessUrl) : Shelf := (c.shelves.lookup service).getD []

/-- The references of a service, in order. -/
def references (c : Catalog) (service : AccessUrl) : List Reference := (c.entries service).map Entry.reference

/-- The catalog with a change set applied to a service. -/
def apply (c : Catalog) (service : AccessUrl) (changes : ResourceChanges) : Catalog :=
  let others := c.shelves.filter fun s => s.1 != service
  let shelf := (c.entries service).apply changes
  ⟨if shelf.isEmpty then others else others ++ [(service, shelf)]⟩

end Catalog

end CatalogSync
