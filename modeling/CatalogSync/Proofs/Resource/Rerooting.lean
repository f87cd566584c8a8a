import CatalogSync.Resource.Graph

/-!
# Re-rooting

A tree is well-formed if each reference in it is that of the resource above and one more segment. Bringing a tree below a reference
makes it so, whatever references it had (`Resource.wellFormed_rebased`), and changes neither its shape, nor its contents, nor the segments
of what is below its top. Hence trees that are grown from a root are well-formed, and `Resource.withSubtree_reroots` says what a subtree
becomes as the last child of a well-formed tree.
-/

namespace CatalogSync

namespace Reference

/-- A child's segment is the one it was given. -/
theorem segment_child (r : Reference) (s : String) : (r.child s).segment = s := by simp [segment, child]

/-- That one reference is another or leads on from it. -/
structure Above (a b : Reference) : Prop where
  kind_eq : b.kind = a.kind
  id_eq : b.id = a.id
  isPrefix : a.path <+: b.path

theorem Above.refl (a : Reference) : a.Above a := ⟨rfl, rfl, List.prefix_refl _⟩

theorem Above.trans {a b c : Reference} (h : a.Above b) (h' : b.Above c) : a.Above c :=
  ⟨h'.kind_eq.trans h.kind_eq, h'.id_eq.trans h.id_eq, h.isPrefix.trans h'.isPrefix⟩

/-- A reference is above its children. -/
theorem above_child (r : Reference) (s : String) : r.Above (r.child s) := ⟨rfl, rfl, List.prefix_append _ _⟩

/-- Two references of one length that lead to a third are the same reference. -/
theorem Above.eq_of_length_eq {a b c : Reference} (ha : a.Above c) (hb : b.Above c) (h : a.path.length = b.path.length) : a = b := by
  obtain ⟨ka, ia, pa⟩ := a
  obtain ⟨kb, ib, pb⟩ := b
  obtain rfl : c.kind = ka := ha.kind_eq
  obtain rfl : c.kind = kb := hb.kind_eq
  obtain rfl : c.id = ia := ha.id_eq
  obtain rfl : c.id = ib := hb.id_eq
  obtain rfl : pa = pb := (List.prefix_of_prefix_length_le ha.isPrefix hb.isPrefix (Nat.le_of_eq h)).eq_of_length h
  rfl

end Reference

namespace Resource

/-- What holds of a resource whenever it holds of its children holds of every resource. -/
@[elab_as_elim, induction_eliminator]
theorem induction {motive : Resource → Prop}
    (node : ∀ reference content children, (∀ c ∈ children, motive c) → motive (.node reference content children)) (r : Resource) :
    motive r :=
  match r with
  | .node reference content children => node reference content children fun c _ => induction node c

/-- A resource comes first, and then its children's subtrees in turn. -/
theorem preorder_eq (r : Resource) : r.preorder = r :: preorderAll r.children := by
  cases r
  rfl

theorem preorderAll_append (rs ss : List Resource) : preorderAll (rs ++ ss) = preorderAll rs ++ preorderAll ss := by
  induction rs with
  | nil => rfl
  | cons r rest ih => simp [preorderAll, ih]

/-- Each resource of a list is traversed with all that is below it. -/
theorem preorderAll_eq_flatMap (rs : List Resource) : preorderAll rs = rs.flatMap preorder := by
  induction rs with
  | nil => rfl
  | cons r rest ih => rw [preorderAll, ih, List.flatMap_cons]

/-- What is visited is visited below one of the resources. -/
theorem mem_preorderAll {rs : List Resource} {x : Resource} : x ∈ preorderAll rs ↔ ∃ r ∈ rs, x ∈ r.preorder := by
  rw [preorderAll_eq_flatMap, List.mem_flatMap]

/-- What holds throughout several trees holds throughout each of them. -/
theorem forall_mem_preorderAll {rs : List Resource} {p : Resource → Prop} :
    (∀ x ∈ preorderAll rs, p x) ↔ ∀ r ∈ rs, ∀ x ∈ r.preorder, p x := by
  rw [preorderAll_eq_flatMap]
  exact List.forall_mem_flatMap

/-- What holds throughout a tree holds of its top and throughout its children. -/
theorem forall_mem_preorder {r : Resource} {p : Resource → Prop} :
    (∀ x ∈ r.preorder, p x) ↔ p r ∧ ∀ c ∈ r.children, ∀ x ∈ c.preorder, p x := by
  rw [preorder_eq, List.forall_mem_cons, forall_mem_preorderAll]

/-- Each child is moved below the new reference under its own segment. -/
theorem rebasedAll_eq_map (rs : List Resource) (parent : Reference) :
    rebasedAll rs parent = rs.map fun c => c.rebased (parent.child c.reference.segment) := by
  induction rs with
  | nil => rfl
  | cons r rest ih => rw [rebasedAll, ih, List.map_cons]

/-- A moved resource has the reference it was moved to. -/
theorem reference_rebased (t : Resource) (r : Reference) : (t.rebased r).reference = r := by
  cases t
  rfl

/-- A resource as it is grown from a root. -/
inductive Grown : Resource → Prop where
  | root (kind : ResourceKind) (id : String) (content : Json) : Grown (.root kind id content)
  | withChild {r : Resource} (h : Grown r) (segment : String) (content : Json) : Grown (r.withChild segment content)
  | withSubtree {r : Resource} (h : Grown r) (segment : String) (subtree : Resource) : Grown (r.withSubtree segment subtree)

/-- That every child in a tree has the reference of its parent and exactly one more segment. -/
def WellFormed (r : Resource) : Prop := ∀ x ∈ r.preorder, ∀ c ∈ x.children, ∃ segment, c.reference = x.reference.child segment

/-- A resource is well-formed if its children are and continue its reference by one segment each. -/
theorem wellFormed_iff (r : Resource) :
    r.WellFormed ↔ (∀ c ∈ r.children, ∃ segment, c.reference = r.reference.child segment) ∧ ∀ c ∈ r.children, c.WellFormed :=
  forall_mem_preorder

/-- A resource without children is well-formed. -/
theorem wellFormed_leaf (r : Reference) (c : Json) : (node r c []).WellFormed :=
  (wellFormed_iff _).2 ⟨List.forall_mem_nil _, List.forall_mem_nil _⟩

/-- A tree with one more child is well-formed if it was before and the child is, with one more segment than its parent. -/
theorem WellFormed.extend {r c : Resource} (h : r.WellFormed) {segment : String} (href : c.reference = r.reference.child segment)
    (hc : c.WellFormed) : (node r.reference r.content (r.children ++ [c])).WellFormed := by
  obtain ⟨hrefs, hbelow⟩ := (wellFormed_iff r).1 h
  refine (wellFormed_iff _).2 ⟨?_, ?_⟩
  · exact List.forall_mem_append.2 ⟨hrefs, List.forall_mem_singleton.2 ⟨segment, href⟩⟩
  · exact List.forall_mem_append.2 ⟨hbelow, List.forall_mem_singleton.2 hc⟩

/-- References of a well-formed tree lead on from that of its top. -/
theorem WellFormed.above {r : Resource} (h : r.WellFormed) : ∀ x ∈ r.preorder, r.reference.Above x.reference := by
  induction r with
  | node s c cs ih =>
    obtain ⟨hrefs, hbelow⟩ := (wellFormed_iff _).1 h
    refine forall_mem_preorder.2 ⟨Reference.Above.refl _, fun y hy x hx => ?_⟩
    obtain ⟨segment, hsegment⟩ := hrefs y hy
    have habove : (node s c cs).reference.Above y.reference := hsegment ▸ Reference.above_child _ segment
    exact habove.trans (ih y hy (hbelow y hy) x hx)

/-- Whatever its references were, a tree that is brought below a reference is well-formed. -/
theorem wellFormed_rebased (t : Resource) (r : Reference) : (t.rebased r).WellFormed := by
  induction t generalizing r with
  | node s c cs ih =>
    rw [rebased, rebasedAll_eq_map, wellFormed_iff]
    refine ⟨List.forall_mem_map.2 fun x _ => ?_, List.forall_mem_map.2 fun x hx => ih x hx _⟩
    exact ⟨x.reference.segment, reference_rebased x _⟩

/-- Whatever is grown from a root is well-formed. -/
theorem Grown.wellFormed {r : Resource} (h : r.Grown) : r.WellFormed := by
  induction h with
  | root kind id content => exact wellFormed_leaf _ _
  | withChild _ segment content ih => exact ih.extend rfl (wellFormed_leaf _ _)
  | withSubtree _ segment subtree ih => exact ih.extend (reference_rebased subtree _) (wellFormed_rebased subtree _)

/-- The shape of a tree: what is left of it without references and contents. -/
inductive Shape where
  | node (children : List Shape)
  deriving Repr

mutual

/-- The shape of a resource with those below it. -/
def shape : Resource → Shape
  | node _ _ cs => .node (shapes cs)

/-- The shapes of several trees. -/
def shapes : List Resource → List Shape
  | [] => []
  | r :: rest => shape r :: shapes rest

end

/-- The shapes of children are taken one by one. -/
theorem shapes_eq_map (rs : List Resource) : shapes rs = rs.map shape := by
  induction rs with
  | nil => rfl
  | cons r rest ih => rw [shapes, ih, List.map_cons]

/-- Moving a resource keeps its shape. -/
theorem shape_rebased (t : Resource) (r : Reference) : (t.rebased r).shape = t.shape := by
  induction t generalizing r with
  | node s c cs ih =>
    rw [rebased, rebasedAll_eq_map, shape, shape, shapes_eq_map, shapes_eq_map, List.map_map]
    exact congrArg Shape.node (List.map_congr_left fun x hx => ih x hx _)

/-- It keeps its content. -/
theorem content_rebased (t : Resource) (r : Reference) : (t.rebased r).content = t.content := by
  cases t
  rfl

/-- What does not change of a resource when it is brought below a parent with its own segment is listed below the top of a tree as before,
wherever the tree is brought. -/
theorem map_preorderAll_rebased {β : Type} {f : Resource → β}
    (hf : ∀ (x : Resource) (parent : Reference), f (x.rebased (parent.child x.reference.segment)) = f x) (t : Resource) (r : Reference) :
    (preorderAll (t.rebased r).children).map f = (preorderAll t.children).map f := by
  induction t generalizing r with
  | node s c cs ih =>
    have hbelow : ∀ x ∈ cs, (x.rebased (r.child x.reference.segment)).preorder.map f = x.preorder.map f := by
      intro x hx
      rw [preorder_eq, preorder_eq, List.map_cons, List.map_cons, hf, ih x hx]
    calc (preorderAll (rebasedAll cs r)).map f
        = cs.flatMap fun x => (x.rebased (r.child x.reference.segment)).preorder.map f := by
          rw [rebasedAll_eq_map, preorderAll_eq_flatMap, List.flatMap_map, List.map_flatMap]
      _ = cs.flatMap fun x => x.preorder.map f := by
          rw [List.flatMap_def, List.flatMap_def, List.map_congr_left hbelow]
      _ = (preorderAll cs).map f := by rw [preorderAll_eq_flatMap, List.map_flatMap]

/-- It keeps the contents of all that is below, in their order. -/
theorem contents_rebased (t : Resource) (r : Reference) : (t.rebased r).preorder.map content = t.preorder.map content := by
  rw [preorder_eq, preorder_eq, List.map_cons, List.map_cons, content_rebased,
    map_preorderAll_rebased fun x parent => content_rebased x _]

/-- It keeps the segments of all that is below, in their order. -/
theorem segments_rebased (t : Resource) (r : Reference) :
    (preorderAll (t.rebased r).children).map (fun x => x.reference.segment) =
      (preorderAll t.children).map fun x => x.reference.segment :=
  map_preorderAll_rebased (fun x parent => by rw [reference_rebased, Reference.segment_child]) t r

/-- Whatever is grown from a root is well-formed, and re-rooting keeps a tree so: any subtree at all becomes the last child of a
well-formed tree, which is well-formed with it and otherwise as before. The new child has the reference of the tree and the given segment,
and of the subtree the shape, the contents in order, and below its top the segments in order. -/
theorem withSubtree_reroots :
    (∀ r : Resource, r.Grown → r.WellFormed) ∧
    ∀ p : Resource, p.WellFormed → ∀ (segment : String) (t : Resource),
      (p.withSubtree segment t).WellFormed ∧ (p.withSubtree segment t).entry = p.entry ∧
      ∃ c, (p.withSubtree segment t).children = p.children ++ [c] ∧ c.reference = p.reference.child segment ∧ c.shape = t.shape ∧
        c.preorder.map content = t.preorder.map content ∧
        (preorderAll c.children).map (fun x => x.reference.segment) = (preorderAll t.children).map fun x => x.reference.segment := by
  refine ⟨fun r => Grown.wellFormed, fun p hp segment t => ?_⟩
  have hreference : (t.rebased (p.reference.child segment)).reference = p.reference.child segment := reference_rebased t _
  refine ⟨hp.extend hreference (wellFormed_rebased t _), rfl, t.rebased (p.reference.child segment), rfl, hreference, ?_, ?_, ?_⟩
  · exact shape_rebased t _
  · exact contents_rebased t _
  · exact segments_rebased t _

/-- Below a submodel with one element, a tree whose references have nothing in common: its top takes the given segment, the child that
was at a root takes its id, and the child of that keeps the last segment of its path. -/
theorem withSubtree_reroots_stray_references :
    let p : Resource := (Resource.root .submodel "sm" .null).withChild "a" .null
    let t : Resource := .node ⟨.shell, "x", ["u", "v"]⟩ (.str "top")
      [.node ⟨.conceptDescription, "y", []⟩ .null [.node ⟨.submodel, "z", ["w", "q"]⟩ (.str "end") []]]
    let sm : Reference := .root .submodel "sm"
    p.Grown ∧ p.WellFormed ∧ ¬t.WellFormed ∧ (p.withSubtree "s" t).WellFormed ∧
      ∃ c, (p.withSubtree "s" t).children = p.children ++ [c] ∧ c.shape = t.shape ∧
        c.preorder.map reference = [sm.child "s", (sm.child "s").child "y", ((sm.child "s").child "y").child "q"] := by
  intro p t sm
  have hgrown : p.Grown := (Grown.root _ _ _).withChild _ _
  have hp : p.WellFormed := withSubtree_reroots.1 p hgrown
  have ht : ¬t.WellFormed := by
    intro h
    obtain ⟨segment, hsegment⟩ := ((wellFormed_iff t).1 h).1 _ List.mem_cons_self
    have hkind : ResourceKind.conceptDescription = .shell := congrArg Reference.kind hsegment
    nomatch hkind
  obtain ⟨hwell, _, c, hc, _, hshape, _⟩ := withSubtree_reroots.2 p hp "s" t
  have hcs : (p.withSubtree "s" t).children = p.children ++ [t.rebased (sm.child "s")] := rfl
  obtain rfl : t.rebased (sm.child "s") = c := List.singleton_inj.1 (List.append_cancel_left (hcs.symm.trans hc))
  exact ⟨hgrown, hp, ht, hwell, _, hc, hshape, rfl⟩

end Resource

end CatalogSync
