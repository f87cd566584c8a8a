import CatalogSync.Proofs.Catalog.Shelf
import CatalogSync.Proofs.Resource.Difference

/-!
# Change sets as patches

`Graph.diff` gives a patch: a shelf that shows the old graph shows the new one once the changes are applied (`Graph.shows_of_diff`),
and `Graph.removal` empties a shelf that shows the graph (`Graph.shows_of_removal`). `Graph.diff_patches` says so of the whole
catalog, and when there is no patch.
-/

namespace CatalogSync

namespace Graph

/-- The entries of the old graph, if there is one. -/
theorem entries_getD (old : Option Graph) : (old.map entries).getD [] = (old.getD empty).entries := by
  cases old with
  | none => simp [entries, walk, empty, walkStack]
  | some g => rfl

/-- A shelf that shows one graph shows another once the changes between them are applied. -/
theorem shows_of_diff_some {old new : Graph} {c : ResourceChanges} (h : diff (some old) new = .ok c) {s : Shelf}
    (hs : s.Shows old.entries) : (s.apply c).Shows new.entries := by
  obtain ⟨hn, ho, rfl⟩ := (diff_some_eq_ok_iff old new c).1 h
  have hadd : (((new.lacking old).map Resource.entry).map Entry.reference).Nodup := by
    rw [List.map_map]
    exact hn.sublist (List.filter_sublist.map _)
  have hmem := Shelf.mem_apply hs.ordered (c := ⟨(new.lacking old).map Resource.entry, (old.lacking new).map Resource.reference⟩) hadd
  refine ⟨hs.ordered.apply _, ?_, ?_⟩
  · intro e he
    rcases (hmem e).1 he with hc | ⟨hes, hr, _⟩
    · obtain ⟨x, hx, rfl⟩ := List.mem_map.1 hc
      have hw := ((mem_lacking_iff ho x).1 hx).1
      exact ⟨x.entry, List.mem_map_of_mem hw, Entry.same_refl _⟩
    · -- the entry stayed, so the new graph has a counterpart of the old resource it shows
      obtain ⟨_, hye, hey⟩ := hs.given e hes
      obtain ⟨y, hy, rfl⟩ := List.mem_map.1 hye
      have her : e.reference = y.reference := ((Entry.same_iff _ _).1 hey).1
      have hk : ∃ z ∈ new.walk, z.reference = y.reference ∧ z.content.same y.content = true := by
        by_contra hk
        exact hr (her ▸ List.mem_map_of_mem ((mem_lacking_iff hn y).2 ⟨hy, hk⟩))
      obtain ⟨z, hz, hzr, hzc⟩ := hk
      refine ⟨z.entry, List.mem_map_of_mem hz, Entry.same_trans hey ?_⟩
      exact (Entry.same_iff _ _).2 ⟨hzr.symm, Json.same_symm hzc⟩
  · intro x hx
    obtain ⟨z, hz, rfl⟩ := List.mem_map.1 hx
    by_cases hk : ∃ y ∈ old.walk, y.reference = z.reference ∧ y.content.same z.content = true
    · obtain ⟨y, hy, hyr, hyc⟩ := hk
      obtain ⟨e, he, hey⟩ := hs.listed y.entry (List.mem_map_of_mem hy)
      have her : e.reference = z.reference := ((Entry.same_iff _ _).1 hey).1.trans hyr
      refine ⟨e, (hmem e).2 (Or.inr ⟨he, ?_, ?_⟩), Entry.same_trans hey ((Entry.same_iff _ _).2 ⟨hyr, hyc⟩)⟩
      · intro hg
        obtain ⟨y', hy', hr'⟩ := List.mem_map.1 hg
        obtain ⟨hw', hno⟩ := (mem_lacking_iff hn y').1 hy'
        have hyy : y' = y := eq_of_reference_eq ho hw' hy (by rw [hr', her, hyr])
        exact hno ⟨z, hz, by rw [hyy, hyr], by rw [hyy]; exact Json.same_symm hyc⟩
      · intro hg
        rw [List.map_map] at hg
        obtain ⟨z', hz', hr'⟩ := List.mem_map.1 hg
        obtain ⟨hw', hno⟩ := (mem_lacking_iff ho z').1 hz'
        have hzz : z' = z := eq_of_reference_eq hn hw' hz (by rw [← her]; exact hr')
        exact hno ⟨y, hy, by rw [hzz, hyr], by rw [hzz]; exact hyc⟩
    · have hc : z ∈ new.lacking old := (mem_lacking_iff ho z).2 ⟨hz, hk⟩
      exact ⟨z.entry, (hmem _).2 (Or.inl (List.mem_map_of_mem hc)), Entry.same_refl _⟩

/-- A shelf that shows the old graph, or nothing, shows the new one once the changes between them are applied. -/
theorem shows_of_diff {old : Option Graph} {new : Graph} {c : ResourceChanges} (h : diff old new = .ok c) {s : Shelf}
    (hs : s.Shows ((old.map entries).getD [])) : (s.apply c).Shows new.entries := by
  rw [entries_getD] at hs
  rw [diff_eq] at h
  exact shows_of_diff_some h hs

/-- A shelf that shows a graph is empty once the graph is removed. -/
theorem shows_of_removal {g : Graph} {s : Shelf} (hs : s.Shows g.entries) : (s.apply g.removal).Shows [] := by
  rw [Shelf.shows_nil_iff, List.eq_nil_iff_forall_not_mem]
  intro e he
  have hadd : (g.removal.toAdd.map Entry.reference).Nodup := List.nodup_nil
  rcases (Shelf.mem_apply hs.ordered hadd e).1 he with hc | ⟨hes, hr, _⟩
  · nomatch hc
  · obtain ⟨_, hxe, hex⟩ := hs.given e hes
    obtain ⟨x, hx, rfl⟩ := List.mem_map.1 hxe
    exact hr (((Entry.same_iff _ _).1 hex).1 ▸ List.mem_map_of_mem hx)

/-- There is no patch exactly if one of the graphs repeats a reference, and a patch takes the entries of a service from the old
graph's to the new one's and leaves those of other services alone. -/
theorem diff_patches (old : Option Graph) (new : Graph) :
    ((∃ e, diff old new = .error e) ↔ ¬new.references.Nodup ∨ ∃ g, old = some g ∧ ¬g.references.Nodup) ∧
    ∀ c, diff old new = .ok c → ∀ (catalog : Catalog) (service : AccessUrl),
      (catalog.entries service).Shows ((old.map entries).getD []) →
        ((catalog.apply service c).entries service).Shows new.entries ∧
        ∀ other, other ≠ service → (catalog.apply service c).entries other = catalog.entries other := by
  have hgetD : (∃ g, old = some g ∧ ¬g.references.Nodup) ↔ ¬(old.getD empty).references.Nodup := by
    cases old with
    | none => simp [references_empty_nodup]
    | some g => simp
  constructor
  · rw [hgetD, diff_eq]
    have hok := diff_some_eq_ok_iff (old.getD empty) new
    cases h : diff (some (old.getD empty)) new with
    | ok c =>
      obtain ⟨hn, ho, _⟩ := (hok c).1 h
      simp [hn, ho]
    | error e =>
      rw [← not_and_or]
      refine iff_of_true ⟨e, rfl⟩ ?_
      rintro ⟨hn, ho⟩
      exact nomatch h.symm.trans ((hok _).2 ⟨hn, ho, rfl⟩)
  · intro c hc catalog service hs
    refine ⟨?_, fun other hne => Catalog.entries_apply_other catalog hne c⟩
    rw [Catalog.entries_apply_self]
    exact shows_of_diff hc hs

/-- A submodel whose content changes and whose child gives way to another: both old resources go, and both new ones come. -/
theorem diff_patches_changed_submodel :
    let old : Graph := ⟨[(Resource.root .submodel "sm" (.str "old")).withChild "a" .null]⟩
    let new : Graph := ⟨[(Resource.root .submodel "sm" (.str "new")).withChild "b" .null]⟩
    let sm : Reference := .root .submodel "sm"
    let c : ResourceChanges := ⟨[⟨sm, .str "new"⟩, ⟨sm.child "b", .null⟩], [sm, sm.child "a"]⟩
    let catalog : Catalog := ⟨[(⟨"http://host"⟩, [⟨sm, .str "old"⟩, ⟨sm.child "a", .null⟩])]⟩
    diff (some old) new = .ok c ∧ (catalog.entries ⟨"http://host"⟩).Shows old.entries ∧
      ((catalog.apply ⟨"http://host"⟩ c).entries ⟨"http://host"⟩).Shows new.entries := by
  intro old new sm c catalog
  have hc : diff (some old) new = .ok c := by cbv
  have hs : (catalog.entries ⟨"http://host"⟩).Shows old.entries := by
    have he : old.entries = [⟨sm, .str "old"⟩, ⟨sm.child "a", .null⟩] := by cbv
    rw [he]
    refine Shelf.Ordered.shows_self ?_
    exact List.pairwise_pair.2 (by decide)
  exact ⟨hc, hs, ((diff_patches (some old) new).2 c hc catalog _ hs).1⟩

end Graph

end CatalogSync
