import Mathlib.Data.List.Lattice
import CatalogSync.Proofs.Resource.Difference

/-!
# Retaining kinds

In graphs whose trees are grown from their roots it makes no difference whether some kinds are retained before or after the graphs are
walked or compared (`Graph.retainKinds_commutes`): a tree is of one kind, so to leave out its root is to leave out the references of other
kinds, and no reference of a kind that is retained is looked up in what was left out.
-/

namespace CatalogSync

/-- The changes of resources of the given kinds. -/
def ResourceChanges.retainKinds (c : ResourceChanges) (kinds : List ResourceKind) : ResourceChanges :=
  ⟨c.toAdd.filter fun e => kinds.contains e.reference.kind, c.toRemove.filter fun r => kinds.contains r.kind⟩

/-- Of trees of one kind each, those with tops of some kinds hold exactly the resources of these kinds. -/
theorem Resource.preorderAll_filter_kind {rs : List Resource} (h : ∀ r ∈ rs, r.OneKind) (kinds : List ResourceKind) :
    preorderAll (rs.filter fun r => kinds.contains r.reference.kind) =
      (preorderAll rs).filter fun x => kinds.contains x.reference.kind := by
  induction rs with
  | nil => rfl
  | cons r rest ih =>
    obtain ⟨hr, hrest⟩ := List.forall_mem_cons.1 h
    rw [preorderAll, List.filter_append, ← ih hrest]
    by_cases hk : kinds.contains r.reference.kind = true
    · have hall : r.preorder.filter (fun x => kinds.contains x.reference.kind) = r.preorder :=
        List.filter_eq_self.2 fun x hx => by rw [hr x hx, hk]
      rw [hall, List.filter_cons, if_pos hk, preorderAll]
    · have hnone : r.preorder.filter (fun x => kinds.contains x.reference.kind) = [] :=
        List.filter_eq_nil_iff.2 fun x hx => by rwa [hr x hx]
      rw [hnone, List.filter_cons, if_neg hk, List.nil_append]

namespace Graph

open Resource

/-- To retain some kinds and then others is to retain those that are among both. -/
theorem retainKinds_retainKinds (g : Graph) (kinds others : List ResourceKind) :
    (g.retainKinds others).retainKinds kinds = g.retainKinds (others ∩ kinds) := by
  unfold retainKinds
  rw [List.filter_filter]
  refine congrArg Graph.mk (List.filter_congr fun r _ => Bool.eq_iff_iff.2 ?_)
  rw [Bool.and_eq_true, List.contains_iff_mem, List.contains_iff_mem, List.contains_iff_mem, List.mem_inter_iff, and_comm]

/-- Retaining the same kinds again changes nothing. -/
theorem retainKinds_self (g : Graph) (kinds : List ResourceKind) : (g.retainKinds kinds).retainKinds kinds = g.retainKinds kinds := by
  unfold retainKinds
  rw [List.filter_filter]
  simp only [Bool.and_self]

section Grown

variable {g other : Graph} (hg : g.Grown) (ho : other.Grown) (kinds : List ResourceKind)

include hg

/-- What is walked then is what is of the kinds, in its order. -/
theorem walk_retainKinds : (g.retainKinds kinds).walk = g.walk.filter fun x => kinds.contains x.reference.kind := by
  unfold walk retainKinds
  rw [walkStack_eq, walkStack_eq, preorderAll_filter_kind fun r hr => (hg r hr).kind_eq]

/-- At references of the kinds that are retained there is the same content. -/
theorem contentAt?_retainKinds {r : Reference} (hr : kinds.contains r.kind = true) :
    (g.retainKinds kinds).contentAt? r = g.contentAt? r := by
  unfold contentAt?
  rw [walk_retainKinds hg, List.find?_filter]
  refine congrArg (Option.map content) (congrArg (fun p => List.find? p g.walk) (funext fun x => ?_))
  by_cases hx : x.reference = r
  · simp [hx, List.contains_iff_mem.1 hr]
  · simp [hx]

include ho

/-- What a graph lacks of another one with both restricted is what it lacks, restricted. -/
theorem lacking_retainKinds :
    (g.retainKinds kinds).lacking (other.retainKinds kinds) = (g.lacking other).filter fun x => kinds.contains x.reference.kind := by
  unfold lacking
  rw [walk_retainKinds hg, List.filter_filter, List.filter_filter]
  refine List.filter_congr fun x _ => ?_
  by_cases hx : kinds.contains x.reference.kind = true
  · rw [agrees, agrees, contentAt?_retainKinds ho kinds hx, hx, Bool.true_and, Bool.and_true]
  · rw [Bool.not_eq_true] at hx
    rw [hx, Bool.and_false, Bool.false_and]

/-- The changes between two graphs, restricted, are the changes between the graphs restricted. -/
theorem diff_some_retainKinds {c : ResourceChanges} (h : diff (some other) g = .ok c) :
    diff (some (other.retainKinds kinds)) (g.retainKinds kinds) = .ok (c.retainKinds kinds) := by
  obtain ⟨hn, hold, rfl⟩ := (diff_some_eq_ok_iff _ _ _).1 h
  refine (diff_some_eq_ok_iff _ _ _).2 ⟨nodup_references_retainKinds hn kinds, nodup_references_retainKinds hold kinds, ?_⟩
  rw [lacking_retainKinds hg ho, lacking_retainKinds ho hg, ResourceChanges.retainKinds, List.filter_map, List.filter_map]
  rfl

end Grown

/-- Restriction to some kinds commutes with walking and comparing graphs whose trees are grown from their roots: the walk of a graph of
which only some kinds are retained is the part of its walk with references of these kinds, to retain kinds twice is to retain those that are
retained both times, and if there are changes between two graphs, then the graphs restricted have the same changes restricted. -/
theorem retainKinds_commutes {g : Graph} (hg : g.Grown) (kinds others : List ResourceKind) :
    (g.retainKinds kinds).walk = g.walk.filter (fun x => kinds.contains x.reference.kind) ∧
    (g.retainKinds others).retainKinds kinds = g.retainKinds (others ∩ kinds) ∧
    (g.retainKinds kinds).retainKinds kinds = g.retainKinds kinds ∧
    ∀ old : Option Graph, (∀ o, old = some o → o.Grown) → ∀ c, diff old g = .ok c →
      diff (old.map fun o => o.retainKinds kinds) (g.retainKinds kinds) = .ok (ResourceChanges.retainKinds c kinds) := by
  refine ⟨walk_retainKinds hg kinds, retainKinds_retainKinds g kinds others, retainKinds_self g kinds, fun old hold c hc => ?_⟩
  cases old with
  | some o => exact diff_some_retainKinds hg (hold o rfl) kinds hc
  | none =>
    rw [diff_none] at hc
    rw [Option.map_none, diff_none]
    exact diff_some_retainKinds hg (List.forall_mem_nil _) kinds hc

/-- Of a submodel whose element changes, a shell that goes and a concept description that comes, only submodels and shells are retained. -/
theorem retainKinds_commutes_changed_element :
    let old : Graph := ⟨[(Resource.root .submodel "A" .null).withChild "Prop" (.str "old"), .root .shell "B" .null]⟩
    let new : Graph := ⟨[.root .conceptDescription "C" .null, (Resource.root .submodel "A" .null).withChild "Prop" (.str "new")]⟩
    let kinds : List ResourceKind := [.shell, .submodel]
    let prop : Reference := (Reference.root .submodel "A").child "Prop"
    old.Grown ∧ new.Grown ∧
      diff (some old) new = .ok ⟨[⟨.root .conceptDescription "C", .null⟩, ⟨prop, .str "new"⟩], [prop, .root .shell "B"]⟩ ∧
      diff (some (old.retainKinds kinds)) (new.retainKinds kinds) = .ok ⟨[⟨prop, .str "new"⟩], [prop, .root .shell "B"]⟩ ∧
      (new.retainKinds kinds).walk = new.walk.filter fun x => kinds.contains x.reference.kind := by
  intro old new kinds prop
  have hold : old.Grown := List.forall_mem_cons.2 ⟨(Resource.Grown.root _ _ _).withChild _ _, List.forall_mem_singleton.2 (.root _ _ _)⟩
  have hnew : new.Grown := List.forall_mem_cons.2 ⟨.root _ _ _, List.forall_mem_singleton.2 ((Resource.Grown.root _ _ _).withChild _ _)⟩
  have hd : diff (some old) new = .ok ⟨[⟨.root .conceptDescription "C", .null⟩, ⟨prop, .str "new"⟩], [prop, .root .shell "B"]⟩ := by cbv
  obtain ⟨hwalk, _, _, hdiff⟩ := retainKinds_commutes hnew kinds [.shell]
  refine ⟨hold, hnew, hd, ?_, hwalk⟩
  refine (hdiff (some old) (fun o ho => Option.some.inj ho ▸ hold) _ hd).trans ?_
  rfl

end Graph

end CatalogSync
