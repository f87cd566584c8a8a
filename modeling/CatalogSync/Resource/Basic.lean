import CatalogSync.Resource.Reference

/-!
# Resources

A resource has a reference, opaque content and child resources. Resources built with `root`, `withChild` and `withSubtree` have
at each child the parent's reference and one more segment; a resource that was read from JSON may have any references inside.
-/

namespace CatalogSync

/-- A resource and the resources below it. -/
inductive Resource where
  | node (reference : Reference) (content : Json) (children : List Resource)
  deriving Repr, Inhabited

/-- A resource on its own, as the catalog holds it. -/
structure Entry where
  reference : Reference
  content : Json
  deriving Repr, Inhabited

namespace Entry

/-- Equality of entries, with contents compared as JSON values. -/
def same (a b : Entry) : Bool := a.reference == b.reference && a.content.same b.content

instance : BEq Entry := ⟨same⟩

/-- An entry as JSON. -/
def toJson (e : Entry) : Json := .obj [("content", e.content), ("reference", e.reference.toJson)]

/-- The fields of an entry seen while one is read. -/
structure Parts where
  reference : Option Reference
  content : Option Json

/-- The fields of an entry in order. -/
def fields : List (Decoder.Field Parts) := [
  ⟨"reference", false, fun v p => do return { p with reference := ← Reference.decode v }⟩,
  ⟨"content", false, fun v p => .ok { p with content := v }⟩]

/-- Reads an entry. -/
def decode : Decoder Entry := fun v => do
  let p ← Decoder.record "ResourceEntry" fields ⟨none, none⟩ v
  return ⟨← Decoder.need "reference" p.reference, ← Decoder.need "content" p.content⟩

end Entry

namespace Resource

/-- The reference of a resource. -/
def reference : Resource → Reference
  | node r _ _ => r

/-- The content of a resource. -/
def content : Resource → Json
  | node _ c _ => c

/-- The resources directly below a resource. -/
def children : Resource → List Resource
  | node _ _ cs => cs

/-- A resource without those below it. -/
def entry (r : Resource) : Entry := ⟨r.reference, r.content⟩

/-- A root resource without children. -/
def root (kind : ResourceKind) (id : String) (content : Json) : Resource := node (.root kind id) content []

/-- Adds a child as the last one. -/
def withChild (r : Resource) (segment : String) (content : Json) : Resource :=
  node r.reference r.content (r.children ++ [node (r.reference.child segment) content []])

mutual

/-- The resource with a new reference, and each one below it with the reference of its parent and its own segment. -/
def rebased : Resource → Reference → Resource
  | node _ content children, reference => node reference content (rebasedAll children reference)

/-- Each of the resources below a parent with the parent's reference and its own segment. -/
def rebasedAll : List Resource → Reference → List Resource
  | [], _ => []
  | c :: rest, parent => rebased c (parent.child c.reference.segment) :: rebasedAll rest parent

end

/-- Adds a subtree as the last child, with its references brought below this resource's. -/
def withSubtree (r : Resource) (segment : String) (subtree : Resource) : Resource :=
  node r.reference r.content (r.children ++ [subtree.rebased (r.reference.child segment)])

mutual

/-- Whether two resources are equal, with contents compared as JSON values. -/
def same : Resource → Resource → Bool
  | node r c cs, node s d ds => r == s && c.same d && sameAll cs ds

/-- Whether two lists of resources are equal one by one. -/
def sameAll : List Resource → List Resource → Bool
  | [], [] => true
  | a :: as, b :: bs => same a b && sameAll as bs
  | _, _ => false

end

instance : BEq Resource := ⟨same⟩

mutual

/-- The number of resources in a tree. -/
def size : Resource → Nat
  | node _ _ cs => 1 + sizeAll cs

/-- The number of resources in several trees. -/
def sizeAll : List Resource → Nat
  | [] => 0
  | r :: rest => size r + sizeAll rest

end

mutual

/-- A resource followed by those below it, children in order, each before its own children. -/
def preorder : Resource → List Resource
  | node r c cs => node r c cs :: preorderAll cs

/-- The resources of several trees, one tree after the other. -/
def preorderAll : List Resource → List Resource
  | [] => []
  | r :: rest => preorder r ++ preorderAll rest

end

mutual

/-- A resource as JSON; an empty list of children is left out. -/
def toJson : Resource → Json
  | node r c cs =>
    .obj ((if cs.isEmpty then [] else [("children", .arr (toJsonAll cs))]) ++
      [("content", c), ("reference", r.toJson)])

/-- Resources as JSON values. -/
def toJsonAll : List Resource → List Json
  | [] => []
  | r :: rest => toJson r :: toJsonAll rest

end

/-- The fields of a resource seen while one is read. -/
structure Parts where
  reference : Option Reference
  content : Json
  children : List Resource

/-- The fields of a resource in order, given how a resource below it is read. -/
def fields (below : Decoder Resource) : List (Decoder.Field Parts) := [
  ⟨"reference", false, fun v p => do return { p with reference := ← Reference.decode v }⟩,
  ⟨"content", true, fun v p => .ok { p with content := v }⟩,
  ⟨"children", true, fun v p => do return { p with children := ← Decoder.list below v }⟩]

/-- Reads a resource that is at most `depth` resources deep. -/
def decodeWithin : Nat → Decoder Resource
  | 0, v => .error (.wrongType v "struct Resource")
  | depth + 1, v => do
    let p ← Decoder.record "Resource" (fields (decodeWithin depth)) ⟨none, .null, []⟩ v
    return node (← Decoder.need "reference" p.reference) p.content p.children

end Resource

mutual

/-- How deep a JSON value is. -/
def Json.depth : Json → Nat
  | .arr items => Json.depthItems items + 1
  | .obj fields => Json.depthFields fields + 1
  | _ => 0

/-- The greatest depth among values. -/
def Json.depthItems : List Json → Nat
  | [] => 0
  | v :: rest => max (Json.depth v) (Json.depthItems rest)

/-- The greatest depth among the values of fields. -/
def Json.depthFields : List (String × Json) → Nat
  | [] => 0
  | (_, v) :: rest => max (Json.depth v) (Json.depthFields rest)

end

/-- Reads a resource: it is no deeper than its JSON value. -/
def Resource.decode : Decoder Resource := fun v => Resource.decodeWithin (v.depth + 1) v

end CatalogSync
