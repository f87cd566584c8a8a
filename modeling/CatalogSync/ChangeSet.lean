import CatalogSync.Resource.Graph
import CatalogSync.ModelError

/-!
# Change sets

A change set lists what to add to the catalog and what to remove from it, each in the order it was found. A resource whose content
changed is in both lists: its old version goes and its new version comes. `Graph.diff` finds the change set that leads from one
snapshot to another, and `Graph.removal` the one that takes a whole snapshot away.
-/

namespace CatalogSync

/-- Things to add and things to remove. -/
structure ChangeSet (α ρ : Type) where
  toAdd : List α
  toRemove : List ρ
  deriving Repr, Inhabited

namespace ChangeSet

variable {α ρ : Type}

/-- Nothing to do. -/
def empty : ChangeSet α ρ := ⟨[], []⟩

/-- One more thing to add. -/
def add (c : ChangeSet α ρ) (a : α) : ChangeSet α ρ := { c with toAdd := c.toAdd ++ [a] }

/-- More things to add, in order. -/
def addAll (c : ChangeSet α ρ) (as : List α) : ChangeSet α ρ := { c with toAdd := c.toAdd ++ as }

/-- One more thing to remove. -/
def remove (c : ChangeSet α ρ) (r : ρ) : ChangeSet α ρ := { c with toRemove := c.toRemove ++ [r] }

/-- More things to remove, in order. -/
def removeAll (c : ChangeSet α ρ) (rs : List ρ) : ChangeSet α ρ := { c with toRemove := c.toRemove ++ rs }

/-- Whether there is nothing to do. -/
def isEmpty (c : ChangeSet α ρ) : Bool := c.toAdd.isEmpty && c.toRemove.isEmpty

/-- The number of additions and removals together. -/
def length (c : ChangeSet α ρ) : Nat := c.toAdd.length + c.toRemove.length

/-- Equality of change sets by equality of their items. -/
def same [BEq α] [BEq ρ] (a b : ChangeSet α ρ) : Bool := a.toAdd == b.toAdd && a.toRemove == b.toRemove

instance [BEq α] [BEq ρ] : BEq (ChangeSet α ρ) := ⟨same⟩

/-- A change set as JSON, given its items as JSON. -/
def toJson (item : α → Json) (ref : ρ → Json) (c : ChangeSet α ρ) : Json :=
  .obj [("to_add", .arr (c.toAdd.map item)), ("to_remove", .arr (c.toRemove.map ref))]

/-- The fields of a change set seen while one is read. -/
structure Parts (α ρ : Type) where
  toAdd : Option (List α)
  toRemove : Option (List ρ)

/-- The fields of a change set in order, given how its items are read. -/
def fields (item : Decoder α) (ref : Decoder ρ) : List (Decoder.Field (Parts α ρ)) := [
  ⟨"to_add", false, fun v p => do return { p with toAdd := ← Decoder.list item v }⟩,
  ⟨"to_remove", false, fun v p => do return { p with toRemove := ← Decoder.list ref v }⟩]

/-- Reads a change set. -/
def decode (item : Decoder α) (ref : Decoder ρ) : Decoder (ChangeSet α ρ) := fun v => do
  let p ← Decoder.record "ChangeSet" (fields item ref) ⟨none, none⟩ v
  return ⟨← Decoder.need "to_add" p.toAdd, ← Decoder.need "to_remove" p.toRemove⟩

end ChangeSet

/-- The changes of one service's resources in the catalog. -/
abbrev ResourceChanges := ChangeSet Entry Reference

/-- Resource changes as JSON. -/
def ResourceChanges.toJson (c : ResourceChanges) : Json := ChangeSet.toJson Entry.toJson Reference.toJson c

/-- Reads resource changes. -/
def ResourceChanges.decode : Decoder ResourceChanges := ChangeSet.decode Entry.decode Reference.decode

namespace Graph

/-- An error if some reference occurs twice. -/
def validate (g : Graph) : Except ModelError Unit :=
  match g.repeated? with
  | some r => .error (.duplicateReference r)
  | none => .ok ()

/-- The content that a graph has at a reference, if it has the reference. -/
def contentAt? (g : Graph) (r : Reference) : Option Json :=
  (g.walk.find? fun x => x.reference == r).map Resource.content

/-- Whether contents at a reference hold the same content as a resource. -/
def agrees (contents : Reference → Option Json) (x : Resource) : Bool :=
  match contents x.reference with
  | some c => c.same x.content
  | none => false

/-- The changes that lead from the snapshot `old`, or from nothing, to `new`: what of `old` is gone or has another content is
removed, in the order of its walk, and what of `new` was not there with that content is added, in the order of its walk. -/
def diff (old : Option Graph) (new : Graph) : Except ModelError ResourceChanges := do
  new.validate
  match old with
  | none => return ChangeSet.empty.addAll new.entries
  | some old =>
    old.validate
    let gone := old.walk.filter fun x => !agrees new.contentAt? x
    let come := new.walk.filter fun x => !agrees old.contentAt? x
    return (ChangeSet.empty.removeAll (gone.map Resource.reference)).addAll (come.map Resource.entry)

/-- The changes that take every resource of a snapshot away. -/
def removal (g : Graph) : ResourceChanges := ChangeSet.empty.removeAll g.references

end Graph

end CatalogSync
