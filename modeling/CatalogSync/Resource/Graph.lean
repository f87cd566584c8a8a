import CatalogSync.Resource.Basic

/-!
# Graphs of resources

A graph is everything a service exposes at one time: its root resources and those below them. `walk` lists them with a stack,
each root followed by the resources below it, and `validate` demands that no reference occurs twice.
-/

namespace CatalogSync

/-- The root resources of a service, in order. -/
structure Graph where
  roots : List Resource
  deriving Repr, Inhabited

/-- The size of a tree is the size of its top and of its children. -/
theorem Resource.size_eq (r : Resource) : r.size = 1 + Resource.sizeAll r.children := by
  cases r; simp [Resource.size, Resource.children]

/-- The size of trees one after the other is the sum of their sizes. -/
theorem Resource.sizeAll_append (xs ys : List Resource) :
    Resource.sizeAll (xs ++ ys) = Resource.sizeAll xs + Resource.sizeAll ys := by
  induction xs with
  | nil => simp [Resource.sizeAll]
  | cons x xs ih => simp [Resource.sizeAll, ih, Nat.add_assoc]

namespace Graph

/-- The graph without resources. -/
def empty : Graph := ⟨[]⟩

/-- Whether a graph has no resources. -/
def isEmpty (g : Graph) : Bool := g.roots.isEmpty

/-- Empties a stack of trees: the top one comes first, and its children take its place on the stack. -/
def walkStack : List Resource → List Resource
  | [] => []
  | r :: rest => r :: walkStack (r.children ++ rest)
termination_by stack => Resource.sizeAll stack
decreasing_by
  rw [Resource.sizeAll_append, Resource.sizeAll, Resource.size_eq]
  omega

/-- All resources of a graph, each root followed by those below it. -/
def walk (g : Graph) : List Resource := walkStack g.roots

/-- The references of a graph in the order of its walk. -/
def references (g : Graph) : List Reference := g.walk.map Resource.reference

/-- The entries of a graph in the order of its walk. -/
def entries (g : Graph) : List Entry := g.walk.map Resource.entry

/-- The first reference of a list that occurs among `seen` or earlier in the list. -/
def firstRepeated (seen : List Reference) : List Reference → Option Reference
  | [] => none
  | r :: rest => if seen.contains r then some r else firstRepeated (r :: seen) rest

/-- The first reference in the order of the walk that occurred before, if there is one. -/
def repeated? (g : Graph) : Option Reference := firstRepeated [] g.references

/-- The graph with only the roots of the given kinds. -/
def retainKinds (g : Graph) (kinds : List ResourceKind) : Graph :=
  ⟨g.roots.filter fun r => kinds.contains r.reference.kind⟩

/-- Equality of graphs, with contents compared as JSON values. -/
def same (a b : Graph) : Bool := Resource.sameAll a.roots b.roots

instance : BEq Graph := ⟨same⟩

/-- A graph as JSON. -/
def toJson (g : Graph) : Json := .obj [("roots", .arr (Resource.toJsonAll g.roots))]

/-- The fields of a graph in order. -/
def fields : List (Decoder.Field Graph) := [
  ⟨"roots", true, fun v _ => do return ⟨← Decoder.list Resource.decode v⟩⟩]

/-- Reads a graph. -/
def decode : Decoder Graph := Decoder.record "ResourceGraph" fields empty

end Graph

end CatalogSync
