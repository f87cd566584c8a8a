import CatalogSync.Proofs.Resource.Kinds

/-!
# Siblings

References of a well-formed tree tell the way from its top, so two of them can only be equal if some siblings on the way are: trees whose
tops stand on one level repeat no reference exactly if no two tops have one reference and none of the trees repeats any
(`Resource.nodup_references_level_iff`). `Graph.validate_local` draws from it that a graph is free of repeated references exactly if its roots
and the children of each of its resources are told apart, and says which reference a graph is refused for.
-/

namespace CatalogSync

namespace Resource

/-- That no two children of a resource have references with the same last segment. -/
def DistinctChildren (r : Resource) : Prop := (r.children.map fun c => c.reference.path.getLast?).Nodup

instance (r : Resource) : Decidable r.DistinctChildren := inferInstanceAs (Decidable (List.Nodup _))

/-- Whether a list of resources repeats something is the same for any two properties of them that are equal for the same pairs. -/
theorem nodup_map_congr {α β : Type} {f : Resource → α} {g : Resource → β} {rs : List Resource}
    (h : ∀ a ∈ rs, ∀ b ∈ rs, f a = f b ↔ g a = g b) : (rs.map f).Nodup ↔ (rs.map g).Nodup := by
  unfold List.Nodup
  rw [List.pairwise_map, List.pairwise_map]
  exact List.Pairwise.iff_of_mem fun ha hb => not_congr (h _ ha _ hb)

/-- Children of one parent have different references exactly if they have different last segments. -/
theorem nodup_children_iff {r : Resource} (h : r.WellFormed) : (r.children.map reference).Nodup ↔ r.DistinctChildren := by
  refine nodup_map_congr fun a ha b hb => ?_
  obtain ⟨s, hs⟩ := ((wellFormed_iff r).1 h).1 a ha
  obtain ⟨t, ht⟩ := ((wellFormed_iff r).1 h).1 b hb
  rw [hs, ht]
  simp [Reference.child]

/-- Trees with tops of one level share a reference exactly if their tops have the same one. -/
theorem disjoint_references_iff {a b : Resource} (ha : a.WellFormed) (hb : b.WellFormed)
    (hlevel : a.reference.path.length = b.reference.path.length) :
    List.Disjoint (a.preorder.map reference) (b.preorder.map reference) ↔ a.reference ≠ b.reference := by
  constructor
  · intro h heq
    have hmem : ∀ r : Resource, r.reference ∈ r.preorder.map reference := fun r => by
      rw [preorder_eq]
      exact List.mem_cons_self
    exact h (hmem a) (heq ▸ hmem b)
  · intro hne r hra hrb
    obtain ⟨x, hx, rfl⟩ := List.mem_map.1 hra
    obtain ⟨y, hy, hyx⟩ := List.mem_map.1 hrb
    exact hne ((ha.above x hx).eq_of_length_eq (hyx ▸ hb.above y hy) hlevel)

/-- Trees with tops of one level repeat no reference exactly if the tops repeat none and none of the trees does. -/
theorem nodup_references_level_iff {rs : List Resource} {level : Nat} (hwell : ∀ r ∈ rs, r.WellFormed)
    (hlevel : ∀ r ∈ rs, r.reference.path.length = level) :
    ((preorderAll rs).map reference).Nodup ↔ (rs.map reference).Nodup ∧ ∀ r ∈ rs, (r.preorder.map reference).Nodup := by
  rw [preorderAll_eq_flatMap, List.map_flatMap, List.nodup_flatMap, and_comm]
  refine and_congr_left fun _ => ?_
  unfold List.Nodup
  rw [List.pairwise_map]
  refine List.Pairwise.iff_of_mem fun ha hb => ?_
  exact disjoint_references_iff (hwell _ ha) (hwell _ hb) ((hlevel _ ha).trans (hlevel _ hb).symm)

/-- A well-formed tree repeats no reference exactly if no resource of it has two children with the same last segment. -/
theorem WellFormed.nodup_references_iff {r : Resource} (h : r.WellFormed) :
    (r.preorder.map reference).Nodup ↔ ∀ x ∈ r.preorder, x.DistinctChildren := by
  induction r with
  | node s c cs ih =>
    obtain ⟨hrefs, hbelow⟩ := (wellFormed_iff _).1 h
    have hlevel : ∀ x ∈ cs, x.reference.path.length = s.path.length + 1 := by
      intro x hx
      obtain ⟨segment, hsegment⟩ := hrefs x hx
      rw [hsegment]
      simp [Reference.child, reference]
    -- what is below the top has a longer path
    have htop : s ∉ (preorderAll cs).map reference := by
      intro hs
      obtain ⟨x, hx, hxs⟩ := List.mem_map.1 hs
      obtain ⟨y, hy, hx⟩ := mem_preorderAll.1 hx
      have hle := ((hbelow y hy).above x hx).isPrefix.length_le
      rw [hlevel y hy, hxs] at hle
      omega
    calc ((node s c cs).preorder.map reference).Nodup
        ↔ ((preorderAll cs).map reference).Nodup := by
          rw [preorder_eq, List.map_cons, List.nodup_cons]
          exact and_iff_right htop
      _ ↔ (cs.map reference).Nodup ∧ ∀ x ∈ cs, (x.preorder.map reference).Nodup := nodup_references_level_iff hbelow hlevel
      _ ↔ (node s c cs).DistinctChildren ∧ ∀ x ∈ cs, ∀ y ∈ x.preorder, y.DistinctChildren :=
          and_congr (nodup_children_iff h) (forall₂_congr fun x hx => ih x hx (hbelow x hx))
      _ ↔ ∀ x ∈ (node s c cs).preorder, x.DistinctChildren := forall_mem_preorder.symm

/-- Whatever is grown from a root stands at a root. -/
theorem Grown.path_eq {r : Resource} (h : r.Grown) : r.reference.path = [] := by
  induction h with
  | root kind id content => rfl
  | withChild _ segment content ih => exact ih
  | withSubtree _ segment subtree ih => exact ih

end Resource

namespace Graph

open Resource

/-- Of a graph whose trees are grown from their roots, `validate` asks no more than that no two roots have the same kind and id, and that
no resource has two children with the same last segment. A graph that it refuses is refused for the reference at the first place of the
pre-order whose reference stands at an earlier one. -/
theorem validate_local {g : Graph} (hg : g.Grown) :
    (g.validate = .ok () ↔ (g.roots.map fun r => (r.reference.kind, r.reference.id)).Nodup ∧
      ∀ x ∈ preorderAll g.roots, x.DistinctChildren) ∧
    ∀ e, g.validate = .error e → ∃ before r after, (preorderAll g.roots).map reference = before ++ r :: after ∧
      before.Nodup ∧ r ∈ before ∧ e = .duplicateReference r := by
  have hreferences : g.references = (preorderAll g.roots).map reference := congrArg (List.map reference) (walkStack_eq g.roots)
  have hroots : (g.roots.map reference).Nodup ↔ (g.roots.map fun r => (r.reference.kind, r.reference.id)).Nodup := by
    refine nodup_map_congr fun a ha b hb => ?_
    have hpath : a.reference.path = b.reference.path := (hg a ha).path_eq.trans (hg b hb).path_eq.symm
    constructor
    · intro h
      rw [h]
    · intro h
      obtain ⟨hkind, hid⟩ := Prod.mk.inj h
      calc a.reference = ⟨a.reference.kind, a.reference.id, a.reference.path⟩ := rfl
        _ = b.reference := by rw [hkind, hid, hpath]
  refine ⟨?_, fun e he => hreferences ▸ validate_eq_error he⟩
  have hlevel : ∀ r ∈ g.roots, r.reference.path.length = 0 := fun r hr => List.length_eq_zero_iff.2 (hg r hr).path_eq
  rw [validate_eq_ok_iff, hreferences, nodup_references_level_iff (fun r hr => (hg r hr).wellFormed) hlevel, forall_mem_preorderAll]
  exact and_congr hroots (forall₂_congr fun r hr => (hg r hr).wellFormed.nodup_references_iff)

/-- A segment with a dot is not two segments: a graph is accepted in which two references are written alike. A second child of the dotted
name is refused. -/
theorem validate_local_dotted_segment :
    let child : Resource := (Resource.root .submodel "tmp" .null).withChild "b" .null
    let submodel : Resource := ((Resource.root .submodel "sm" .null).withChild "a.b" .null).withSubtree "a" child
    let g : Graph := ⟨[submodel, .root .shell "sm" .null]⟩
    let refused : Graph := ⟨[submodel.withChild "a.b" .null]⟩
    let dotted : Reference := (Reference.root .submodel "sm").child "a.b"
    g.Grown ∧ g.validate = .ok () ∧ ¬(g.references.map Reference.display).Nodup ∧
      refused.Grown ∧ ¬(submodel.withChild "a.b" .null).DistinctChildren ∧ ∃ before after,
        (preorderAll refused.roots).map reference = before ++ dotted :: after ∧ before.Nodup ∧ dotted ∈ before := by
  intro child submodel g refused dotted
  have hsubmodel : submodel.Grown := ((Resource.Grown.root _ _ _).withChild _ _).withSubtree _ _
  have hg : g.Grown := List.forall_mem_cons.2 ⟨hsubmodel, List.forall_mem_singleton.2 (.root _ _ _)⟩
  have hrefused : refused.Grown := List.forall_mem_singleton.2 (hsubmodel.withChild _ _)
  have hok : g.validate = .ok () := (validate_local hg).1.2 ⟨by decide, by decide⟩
  have htexts : g.references.map Reference.display =
      ["submodel:sm", "submodel:sm/a.b", "submodel:sm/a", "submodel:sm/a.b", "shell:sm"] := by cbv
  have herror : refused.validate = .error (.duplicateReference dotted) := by cbv
  obtain ⟨before, r, after, hsplit, hnodup, hr, he⟩ := (validate_local hrefused).2 _ herror
  obtain rfl : dotted = r := by simpa using he
  exact ⟨hg, hok, by rw [htexts]; decide, hrefused, by decide, before, after, hsplit, hnodup, hr⟩

end Graph

end CatalogSync
