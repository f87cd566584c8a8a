import CatalogSync.Proofs.Json.Equality
import CatalogSync.Proofs.Resource.Kinds

/-!
# Differences of graphs

`Graph.diff` compares two graphs by their references alone, however the trees stand: in each direction it takes what the other graph
lacks, in the order of the walk (`Graph.diff_some_eq_ok_iff`). `Graph.diff_exact` says which references these are, `Graph.diff_reverses`
that the way back has the two sides exchanged, and `Graph.diff_shortcuts` that the changes from nothing and to nothing are no other ones.
-/

namespace CatalogSync

namespace Graph

/-! ## What one graph lacks of another -/

/-- The resources of a graph that another one does not have with the same content. -/
def lacking (g other : Graph) : List Resource := g.walk.filter fun x => !agrees other.contentAt? x

/-- The empty graph lacks all of another one. -/
theorem lacking_empty (g : Graph) : g.lacking empty = g.walk := by
  have h : ∀ x, agrees empty.contentAt? x = false := fun x => by simp [agrees, contentAt?, walk, empty, walkStack]
  simp [lacking, h]

/-- Nothing of the empty graph is lacking. -/
theorem empty_lacking (g : Graph) : empty.lacking g = [] := by simp [lacking, walk, empty, walkStack]

/-- The empty graph repeats no reference. -/
theorem references_empty_nodup : empty.references.Nodup := by simp [references, walk, empty, walkStack]

/-- Where no reference is repeated, the resources that another graph lacks are those without a counterpart of equal content. -/
theorem mem_lacking_iff {g other : Graph} (ho : other.references.Nodup) (x : Resource) :
    x ∈ g.lacking other ↔ x ∈ g.walk ∧ ¬∃ y ∈ other.walk, y.reference = x.reference ∧ y.content.same x.content = true := by
  rw [← agrees_contentAt?_iff ho]
  simp [lacking]

/-! ## When there is a difference -/

/-- There are changes exactly between graphs without repeated references: what the new one lacks goes, and what the old one lacks
comes. -/
theorem diff_some_eq_ok_iff (old new : Graph) (c : ResourceChanges) :
    diff (some old) new = .ok c ↔ new.references.Nodup ∧ old.references.Nodup ∧
      c = ⟨(new.lacking old).map Resource.entry, (old.lacking new).map Resource.reference⟩ := by
  rw [← validate_eq_ok_iff, ← validate_eq_ok_iff]
  unfold diff
  cases hn : new.validate with
  | error e => simp [bind, Except.bind]
  | ok u =>
    cases ho : old.validate with
    | error e => simp [bind, Except.bind, ho]
    | ok u => simp [bind, Except.bind, ho, pure, Except.pure, ChangeSet.empty, ChangeSet.removeAll, ChangeSet.addAll, lacking, eq_comm]

/-- The changes from nothing are those from a graph without resources. -/
theorem diff_none (new : Graph) : diff none new = diff (some empty) new := by
  have he : empty.validate = .ok () := (validate_eq_ok_iff empty).2 references_empty_nodup
  have h := lacking_empty new
  have h' := empty_lacking new
  unfold lacking at h h'
  simp only [diff, he, h, h', entries]
  rfl

/-- The graph that a snapshot holds, and the empty one if there is none. -/
theorem diff_eq (old : Option Graph) (new : Graph) : diff old new = diff (some (old.getD empty)) new := by
  cases old with
  | none => exact diff_none new
  | some old => rfl

/-- What keeps two graphs from being compared is a reference that one of them repeats. -/
theorem diff_eq_error {old : Option Graph} {new : Graph} {e : ModelError} (h : diff old new = .error e) :
    (∃ r, e = .duplicateReference r) ∧ (¬new.references.Nodup ∨ ∃ g, old = some g ∧ ¬g.references.Nodup) := by
  have hvalidate : ∀ {g : Graph} {e : ModelError}, g.validate = .error e →
      (∃ r, e = .duplicateReference r) ∧ ¬g.references.Nodup := by
    intro g e hg
    obtain ⟨_, r, _, _, _, _, he⟩ := validate_eq_error hg
    exact ⟨⟨r, he⟩, (validate_eq_error_iff g).1 ⟨e, hg⟩⟩
  unfold diff at h
  cases hn : new.validate with
  | error e' =>
    rw [hn] at h
    cases h
    obtain ⟨hr, hd⟩ := hvalidate hn
    exact ⟨hr, Or.inl hd⟩
  | ok u =>
    cases old with
    | none =>
      rw [hn] at h
      nomatch h
    | some g =>
      cases hg : g.validate with
      | ok u =>
        simp only [hn, hg] at h
        nomatch h
      | error e' =>
        simp only [hn, hg] at h
        cases h
        obtain ⟨hr, hd⟩ := hvalidate hg
        exact ⟨hr, Or.inr ⟨g, rfl, hd⟩⟩

/-- If the old graph repeats no reference, it is the first that the new one repeats. -/
theorem repeated?_of_diff_eq_error {old : Option Graph} {new : Graph} {r : Reference}
    (h : diff old new = .error (.duplicateReference r)) (ho : ∀ g, old = some g → g.references.Nodup) : new.repeated? = some r := by
  cases hn : new.validate with
  | error e =>
    unfold diff at h
    rw [hn] at h
    cases h
    exact repeated?_of_validate_eq_error hn
  | ok u =>
    rcases (diff_eq_error h).2 with hnew | ⟨g, hg, hold⟩
    · exact absurd ((validate_eq_ok_iff new).1 hn) hnew
    · exact absurd (ho g hg) hold

/-- Changes add what is in the new graph, and remove what is in the old one. -/
theorem references_of_diff {old : Option Graph} {new : Graph} {c : ResourceChanges} (h : diff old new = .ok c) :
    (∀ entry ∈ c.toAdd, entry.reference ∈ new.references) ∧ ∀ r ∈ c.toRemove, ∃ graph, old = some graph ∧ r ∈ graph.references := by
  rw [diff_eq] at h
  obtain ⟨_, _, rfl⟩ := (diff_some_eq_ok_iff _ _ _).1 h
  refine ⟨fun entry he => ?_, fun r hr => ?_⟩
  · obtain ⟨x, hx, rfl⟩ := List.mem_map.1 he
    exact List.mem_map_of_mem (List.mem_of_mem_filter hx)
  · obtain ⟨x, hx, rfl⟩ := List.mem_map.1 hr
    cases old with
    | none => nomatch (empty_lacking new ▸ hx : x ∈ [])
    | some old => exact ⟨old, rfl, List.mem_map_of_mem (List.mem_of_mem_filter hx)⟩

/-! ## Changed references -/

/-- That two graphs have a reference, with different contents. -/
def Changed (g other : Graph) (r : Reference) : Prop :=
  ∃ x ∈ g.walk, ∃ y ∈ other.walk, x.reference = r ∧ y.reference = r ∧ ¬x.content.same y.content = true

/-- That a reference of a graph is not in another one, or has another content there. -/
def Unmatched (g other : Graph) (r : Reference) : Prop := r ∉ other.references ∨ g.Changed other r

instance (g other : Graph) (r : Reference) : Decidable (g.Changed other r) := inferInstanceAs (Decidable (∃ x ∈ g.walk, _))

instance (g other : Graph) (r : Reference) : Decidable (g.Unmatched other r) := inferInstanceAs (Decidable (_ ∨ _))

variable {g other : Graph}

theorem Changed.symm {r : Reference} (h : g.Changed other r) : other.Changed g r := by
  obtain ⟨x, hx, y, hy, hxr, hyr, hne⟩ := h
  exact ⟨y, hy, x, hx, hyr, hxr, fun hs => hne (Json.same_symm hs)⟩

/-- Where no reference is repeated, what another graph lacks is what has no match there. -/
theorem mem_lacking_iff_unmatched (hg : g.references.Nodup) (ho : other.references.Nodup) {x : Resource} (hx : x ∈ g.walk) :
    x ∈ g.lacking other ↔ g.Unmatched other x.reference := by
  rw [mem_lacking_iff ho]
  constructor
  · rintro ⟨_, hno⟩
    by_cases hr : x.reference ∈ other.references
    · obtain ⟨y, hy, hyr⟩ := List.mem_map.1 hr
      exact Or.inr ⟨x, hx, y, hy, rfl, hyr, fun hs => hno ⟨y, hy, hyr, Json.same_symm hs⟩⟩
    · exact Or.inl hr
  · intro hu
    refine ⟨hx, ?_⟩
    rintro ⟨y, hy, hyr, hs⟩
    rcases hu with hr | ⟨x', hx', y', hy', hxr', hyr', hne⟩
    · exact hr (hyr ▸ List.mem_map_of_mem hy)
    · obtain rfl := eq_of_reference_eq hg hx' hx hxr'
      obtain rfl := eq_of_reference_eq ho hy' hy (hyr'.trans hyr.symm)
      exact hne (Json.same_symm hs)

/-- What is lacking is what has no match, in the order of the walk. -/
theorem lacking_eq (hg : g.references.Nodup) (ho : other.references.Nodup) :
    g.lacking other = g.walk.filter fun x => g.Unmatched other x.reference := by
  refine List.filter_congr fun x hx => Bool.eq_iff_iff.2 ?_
  have hmem : x ∈ g.lacking other ↔ g.Unmatched other x.reference := mem_lacking_iff_unmatched hg ho hx
  rw [lacking, List.mem_filter] at hmem
  rw [decide_eq_true_iff, ← hmem]
  exact (and_iff_right hx).symm

/-- What another graph lacks, in whatever form it is listed, is the part of the walk that has no match there. -/
theorem map_lacking {β : Type} (f : Resource → β) (key : β → Reference) (hkey : ∀ x, key (f x) = x.reference)
    (hg : g.references.Nodup) (ho : other.references.Nodup) :
    (g.lacking other).map f = ((Resource.preorderAll g.roots).map f).filter fun b => g.Unmatched other (key b) := by
  rw [lacking_eq hg ho, ← walkStack_eq, List.filter_map]
  refine congrArg (List.map f) (List.filter_congr fun x _ => ?_)
  rw [Function.comp_apply, hkey]

/-- A reference is lacking exactly if the graph has it and the other one does not match it. -/
theorem mem_references_lacking (hg : g.references.Nodup) (ho : other.references.Nodup) {r : Reference} :
    r ∈ (g.lacking other).map Resource.reference ↔ r ∈ g.references ∧ g.Unmatched other r := by
  rw [map_lacking Resource.reference id (fun _ => rfl) hg ho, ← walkStack_eq, List.mem_filter, decide_eq_true_iff]
  rfl

/-- Nothing is lacking in a graph that has every reference, with the same content. -/
theorem lacking_eq_nil_iff (hg : g.references.Nodup) (ho : other.references.Nodup) :
    g.lacking other = [] ↔ ∀ r ∈ g.references, r ∈ other.references ∧ ¬g.Changed other r := by
  rw [← List.map_eq_nil_iff (f := Resource.reference), List.eq_nil_iff_forall_not_mem]
  refine forall_congr' fun r => ?_
  rw [mem_references_lacking hg ho, not_and, Unmatched, not_or, not_not]

/-- A changed reference is in both graphs. -/
theorem Changed.mem {r : Reference} (h : g.Changed other r) : r ∈ g.references ∧ r ∈ other.references := by
  obtain ⟨x, hx, y, hy, hxr, hyr, _⟩ := h
  exact ⟨hxr ▸ List.mem_map_of_mem hx, hyr ▸ List.mem_map_of_mem hy⟩

/-- A reference is lacking on both sides exactly if both graphs have it, with different contents. -/
theorem mem_both_lacking_iff (hg : g.references.Nodup) (ho : other.references.Nodup) {r : Reference} :
    (r ∈ (g.lacking other).map Resource.reference ∧ r ∈ (other.lacking g).map Resource.reference) ↔ g.Changed other r := by
  rw [mem_references_lacking hg ho, mem_references_lacking ho hg]
  constructor
  · rintro ⟨⟨_, hu⟩, hr, _⟩
    exact hu.resolve_left (not_not_intro hr)
  · intro h
    exact ⟨⟨h.mem.1, Or.inr h⟩, h.mem.2, Or.inr h.symm⟩

/-- Nothing is lacking on either side exactly if the graphs have the same references with the same contents. -/
theorem both_lacking_eq_nil_iff (hg : g.references.Nodup) (ho : other.references.Nodup) :
    (g.lacking other = [] ∧ other.lacking g = []) ↔ (∀ r, r ∈ g.references ↔ r ∈ other.references) ∧
      ∀ x ∈ g.walk, ∀ y ∈ other.walk, x.reference = y.reference → x.content.same y.content = true := by
  rw [lacking_eq_nil_iff hg ho, lacking_eq_nil_iff ho hg]
  constructor
  · rintro ⟨h, h'⟩
    refine ⟨fun r => ⟨fun hr => (h r hr).1, fun hr => (h' r hr).1⟩, fun x hx y hy hxy => ?_⟩
    by_contra hne
    exact (h x.reference (List.mem_map_of_mem hx)).2 ⟨x, hx, y, hy, rfl, hxy.symm, hne⟩
  · rintro ⟨hiff, hsame⟩
    have hnot : ∀ r, ¬g.Changed other r := by
      rintro r ⟨x, hx, y, hy, hxr, hyr, hne⟩
      exact hne (hsame x hx y hy (hxr.trans hyr.symm))
    exact ⟨fun r hr => ⟨(hiff r).1 hr, hnot r⟩, fun r hr => ⟨(hiff r).2 hr, fun h => hnot r h.symm⟩⟩

/-! ## The difference -/

/-- The changes between two graphs without repeated references: what is removed is the part of the old walk that the new graph does not
have, or has with another content, and what is added the part of the new walk that the old graph does not have so, both in order. No
reference is listed twice on one side; it is on both sides exactly if both graphs have it with different contents; and there is nothing to
do exactly if both have the same references with the same contents. -/
theorem diff_exact {old new : Graph} (ho : old.references.Nodup) (hn : new.references.Nodup) :
    ∃ c, diff (some old) new = .ok c ∧
      c.toRemove = ((Resource.preorderAll old.roots).map Resource.reference).filter (fun r => old.Unmatched new r) ∧
      c.toAdd = ((Resource.preorderAll new.roots).map Resource.entry).filter (fun e => new.Unmatched old e.reference) ∧
      c.toRemove.Nodup ∧ (c.toAdd.map Entry.reference).Nodup ∧
      (∀ r, r ∈ c.toRemove ∧ r ∈ c.toAdd.map Entry.reference ↔ old.Changed new r) ∧
      (c.isEmpty = true ↔ (∀ r, r ∈ old.references ↔ r ∈ new.references) ∧
        ∀ x ∈ old.walk, ∀ y ∈ new.walk, x.reference = y.reference → x.content.same y.content = true) := by
  refine ⟨_, (diff_some_eq_ok_iff old new _).2 ⟨hn, ho, rfl⟩, ?_, ?_, ?_, ?_, fun r => ?_, ?_⟩
  · exact map_lacking Resource.reference id (fun _ => rfl) ho hn
  · exact map_lacking Resource.entry Entry.reference (fun _ => rfl) hn ho
  · exact ho.sublist (List.filter_sublist.map _)
  · rw [List.map_map]
    exact hn.sublist (List.filter_sublist.map _)
  · rw [List.map_map]
    exact mem_both_lacking_iff ho hn
  · rw [← both_lacking_eq_nil_iff ho hn]
    simp [ChangeSet.isEmpty, and_comm]

/-- Two submodels change places, an element of the first one gets another content, a third one goes and a fourth one comes. -/
theorem diff_exact_moved_submodel :
    let old : Graph := ⟨[(Resource.root .submodel "A" .null).withChild "Prop" (.str "old"), .root .submodel "B" .null,
      .root .submodel "C" .null]⟩
    let new : Graph := ⟨[.root .submodel "B" .null, (Resource.root .submodel "A" .null).withChild "Prop" (.str "new"),
      .root .submodel "D" .null]⟩
    let prop : Reference := (Reference.root .submodel "A").child "Prop"
    old.references.Nodup ∧ new.references.Nodup ∧ ∃ c, diff (some old) new = .ok c ∧ c.toRemove = [prop, .root .submodel "C"] ∧
      c.toAdd.map Entry.reference = [prop, .root .submodel "D"] ∧
      c.toRemove = ((Resource.preorderAll old.roots).map Resource.reference).filter (fun r => old.Unmatched new r) ∧
      old.Changed new prop := by
  intro old new prop
  have ho : old.references.Nodup := by
    have he : old.references = [.root .submodel "A", prop, .root .submodel "B", .root .submodel "C"] := by cbv
    rw [he]
    decide
  have hn : new.references.Nodup := by
    have he : new.references = [.root .submodel "B", .root .submodel "A", prop, .root .submodel "D"] := by cbv
    rw [he]
    decide
  have hd : diff (some old) new = .ok ⟨[⟨prop, .str "new"⟩, ⟨.root .submodel "D", .null⟩], [prop, .root .submodel "C"]⟩ := by cbv
  obtain ⟨c, hc, hremove, _, _, _, hboth, _⟩ := diff_exact ho hn
  obtain rfl := Except.ok.inj (hd.symm.trans hc)
  exact ⟨ho, hn, _, hc, rfl, rfl, hremove, (hboth prop).1 ⟨by simp, by simp⟩⟩

/-- There are changes from one graph to another exactly if there are changes back, and the way back removes what the way there adds and
adds what it removes, reference by reference in the same order. -/
theorem diff_reverses (old new : Graph) :
    ((∃ c, diff (some old) new = .ok c) ↔ ∃ c, diff (some new) old = .ok c) ∧
    ∀ forward backward, diff (some old) new = .ok forward → diff (some new) old = .ok backward →
      forward.toAdd.map Entry.reference = backward.toRemove ∧ forward.toRemove = backward.toAdd.map Entry.reference := by
  constructor
  · constructor
    · rintro ⟨c, hc⟩
      obtain ⟨hn, ho, _⟩ := (diff_some_eq_ok_iff old new c).1 hc
      exact ⟨_, (diff_some_eq_ok_iff new old _).2 ⟨ho, hn, rfl⟩⟩
    · rintro ⟨c, hc⟩
      obtain ⟨ho, hn, _⟩ := (diff_some_eq_ok_iff new old c).1 hc
      exact ⟨_, (diff_some_eq_ok_iff old new _).2 ⟨hn, ho, rfl⟩⟩
  · intro forward backward hf hb
    obtain ⟨_, _, rfl⟩ := (diff_some_eq_ok_iff old new forward).1 hf
    obtain ⟨_, _, rfl⟩ := (diff_some_eq_ok_iff new old backward).1 hb
    have hrefs : ∀ xs : List Resource, (xs.map Resource.entry).map Entry.reference = xs.map Resource.reference := fun _ => List.map_map
    exact ⟨hrefs _, (hrefs _).symm⟩

/-- An element of a submodel gets another content, and one submodel gives way to another: there and back. -/
theorem diff_reverses_changed_element :
    let old : Graph := ⟨[(Resource.root .submodel "A" .null).withChild "Prop" (.str "old"), .root .submodel "B" .null]⟩
    let new : Graph := ⟨[(Resource.root .submodel "A" .null).withChild "Prop" (.str "new"), .root .submodel "C" .null]⟩
    ∃ forward backward, diff (some old) new = .ok forward ∧ diff (some new) old = .ok backward ∧
      forward.toAdd.length = 2 ∧ forward.toAdd.map Entry.reference = backward.toRemove ∧
      forward.toRemove = backward.toAdd.map Entry.reference := by
  intro old new
  let prop : Reference := (Reference.root .submodel "A").child "Prop"
  have hf : diff (some old) new = .ok ⟨[⟨prop, .str "new"⟩, ⟨.root .submodel "C", .null⟩], [prop, .root .submodel "B"]⟩ := by cbv
  have hb : diff (some new) old = .ok ⟨[⟨prop, .str "old"⟩, ⟨.root .submodel "B", .null⟩], [prop, .root .submodel "C"]⟩ := by cbv
  exact ⟨_, _, hf, hb, rfl, (diff_reverses old new).2 _ _ hf hb⟩

/-- The changes from nothing are those from a graph without resources, errors included, and the changes that take a graph away are those to
a graph without resources, exactly if the graph repeats no reference. -/
theorem diff_shortcuts (g : Graph) :
    diff none g = diff (some empty) g ∧ (diff (some g) empty = .ok g.removal ↔ g.references.Nodup) := by
  refine ⟨diff_none g, ?_⟩
  rw [diff_some_eq_ok_iff, lacking_empty, empty_lacking]
  constructor
  · rintro ⟨_, hg, _⟩
    exact hg
  · intro hg
    exact ⟨references_empty_nodup, hg, rfl⟩

end Graph

end CatalogSync
