import CatalogSync.Proofs.Resource.Rerooting
import CatalogSync.Proofs.Resource.Uniqueness

/-!
# Kinds below a root

To retain some kinds of roots is to retain whole trees: a graph with only the roots of some kinds has exactly the references of the trees
below them (`Graph.mem_references_retainKinds`). Those have the kind of their root wherever a tree was grown from it
(`Resource.Grown.kind_eq`); a tree that was read from JSON may have any.
-/

namespace CatalogSync

namespace Resource

/-- That every resource of a tree has the kind of its top. -/
def OneKind (r : Resource) : Prop := ∀ x ∈ r.preorder, x.reference.kind = r.reference.kind

/-- Whatever is grown from a root has the kind of the root throughout. -/
theorem Grown.kind_eq {r : Resource} (h : r.Grown) : r.OneKind := fun x hx => (h.wellFormed.above x hx).kind_eq

end Resource

namespace Graph

open Resource

/-- A graph whose trees are grown from their roots. -/
def Grown (g : Graph) : Prop := ∀ r ∈ g.roots, r.Grown

/-- A walk lists one tree after the other, each top before what is below it. -/
theorem walkStack_eq (rs : List Resource) : walkStack rs = preorderAll rs := by
  induction rs using walkStack.induct with
  | case1 => rw [walkStack, preorderAll]
  | case2 r rest ih => rw [walkStack, ih, preorderAll, preorder_eq, preorderAll_append, List.cons_append]

/-- The references of a graph with only some kinds of roots are those of the trees below these roots. -/
theorem mem_references_retainKinds {g : Graph} {kinds : List ResourceKind} {r : Reference} :
    r ∈ (g.retainKinds kinds).references ↔
      ∃ root ∈ g.roots, root.reference.kind ∈ kinds ∧ ∃ x ∈ root.preorder, x.reference = r := by
  unfold references walk retainKinds
  rw [walkStack_eq, List.mem_map]
  constructor
  · rintro ⟨x, hx, rfl⟩
    obtain ⟨root, hroot, hx⟩ := mem_preorderAll.1 hx
    obtain ⟨hroot, hkind⟩ := List.mem_filter.1 hroot
    exact ⟨root, hroot, List.contains_iff_mem.1 hkind, x, hx, rfl⟩
  · rintro ⟨root, hroot, hkind, x, hx, rfl⟩
    exact ⟨x, mem_preorderAll.2 ⟨root, List.mem_filter.2 ⟨hroot, List.contains_iff_mem.2 hkind⟩, hx⟩, rfl⟩

end Graph

end CatalogSync
