import CatalogSync.Json.Decode

/-!
# References to resources

A reference names a resource of a service: the kind and the id of a root resource, and the path of segments below it. References
are ordered by kind, then id, then path, segment by segment.
-/

namespace CatalogSync

/-- The kinds of root resources, in their order. -/
inductive ResourceKind where
  | shell | submodel | conceptDescription
  deriving DecidableEq, Repr, Inhabited

namespace ResourceKind

/-- The written name of a kind. -/
def name : ResourceKind → String
  | .shell => "shell"
  | .submodel => "submodel"
  | .conceptDescription => "concept_description"

/-- Every kind, in order. -/
def all : List ResourceKind := [.shell, .submodel, .conceptDescription]

/-- The place of a kind in their order. -/
def rank : ResourceKind → Nat
  | .shell => 0
  | .submodel => 1
  | .conceptDescription => 2

/-- A kind as JSON: its name. -/
def toJson (k : ResourceKind) : Json := .str k.name

/-- Reads a kind from its name. -/
def decode : Decoder ResourceKind := Decoder.variant (all.map fun k => (k.name, k))

end ResourceKind

/-- A typed path from a service's root to one of its resources; a root resource has the empty path. -/
structure Reference where
  kind : ResourceKind
  id : String
  path : List String
  deriving DecidableEq, Repr, Inhabited

namespace Reference

/-- The reference of a root resource. -/
def root (kind : ResourceKind) (id : String) : Reference := ⟨kind, id, []⟩

/-- The reference of a direct child. -/
def child (r : Reference) (segment : String) : Reference := { r with path := r.path ++ [segment] }

/-- Whether a reference names a root resource. -/
def isRoot (r : Reference) : Bool := r.path.isEmpty

/-- The segment that tells a resource from its siblings: the last of its path, or the id of a root. -/
def segment (r : Reference) : String := r.path.getLast?.getD r.id

/-- The text of a reference, such as `submodel:sm-1/Nameplate.ManufacturerName`. -/
def display (r : Reference) : String :=
  r.kind.name ++ ":" ++ r.id ++ (if r.isRoot then "" else "/" ++ ".".intercalate r.path)

/-- The order of two paths: segment by segment, a path before its extensions. -/
def comparePath : List String → List String → Ordering
  | [], [] => .eq
  | [], _ :: _ => .lt
  | _ :: _, [] => .gt
  | a :: as, b :: bs => (compare a b).then (comparePath as bs)

/-- The order of references. -/
def compare (a b : Reference) : Ordering :=
  ((Ord.compare a.kind.rank b.kind.rank).then (Ord.compare a.id b.id)).then (comparePath a.path b.path)

instance : Ord Reference := ⟨compare⟩

/-- Whether a reference comes before another or is equal to it. -/
def le (a b : Reference) : Bool := (compare a b).isLE

/-- A reference as JSON; an empty path is left out. -/
def toJson (r : Reference) : Json :=
  .obj ([("id", .str r.id), ("kind", r.kind.toJson)] ++
    if r.isRoot then [] else [("path", .arr (r.path.map Json.str))])

/-- The fields of a reference seen while one is read. -/
structure Parts where
  kind : Option ResourceKind
  id : Option String
  path : List String

/-- The fields of a reference in order. -/
def fields : List (Decoder.Field Parts) := [
  ⟨"kind", false, fun v p => do return { p with kind := ← ResourceKind.decode v }⟩,
  ⟨"id", false, fun v p => do return { p with id := ← Decoder.string v }⟩,
  ⟨"path", true, fun v p => do return { p with path := ← Decoder.list Decoder.string v }⟩]

/-- Reads a reference. -/
def decode : Decoder Reference := fun v => do
  let p ← Decoder.record "ResourceReference" fields ⟨none, none, []⟩ v
  return ⟨← Decoder.need "kind" p.kind, ← Decoder.need "id" p.id, p.path⟩

end Reference

end CatalogSync
