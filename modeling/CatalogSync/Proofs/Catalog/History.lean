import Mathlib.Data.List.Nodup
import CatalogSync.Proofs.Catalog.Shelf

/-!
# The catalog after many change sets

The catalog keeps the services apart: what it has of a service is what the change sets for this service make of nothing, one after the
other (`Catalog.entries_applyAll`). An entry is there exactly if it is the last addition of its reference and no later change set removes
it (`Entry.Left`, `Shelf.mem_foldl_apply`). `Catalog.applyAll_folds` puts this together, with the order of the entries, and says which
services have a place in the store.
-/

namespace CatalogSync

/-- That a change set neither adds a reference nor removes it. -/
def ResourceChanges.Spares (c : ResourceChanges) (r : Reference) : Prop := r ∉ c.toAdd.map Entry.reference ∧ r ∉ c.toRemove

/-- That an entry is left after change sets: one of them adds it, as the last one that it adds of its reference, and the later ones neither
add its reference nor remove it. -/
def Entry.Left (e : Entry) (changes : List ResourceChanges) : Prop :=
  ∃ before c after, changes = before ++ c :: after ∧ e.LastIn c.toAdd ∧ ∀ d ∈ after, ResourceChanges.Spares d e.reference

namespace Entry

theorem not_left_nil (e : Entry) : ¬e.Left [] := by
  rintro ⟨before, c, after, h, _⟩
  simp at h

/-- What is left of change sets is left of the later ones, or comes from the first and is spared by the others. -/
theorem left_cons_iff (e : Entry) (c : ResourceChanges) (changes : List ResourceChanges) :
    e.Left (c :: changes) ↔ e.Left changes ∨ e.LastIn c.toAdd ∧ ∀ d ∈ changes, ResourceChanges.Spares d e.reference := by
  constructor
  · rintro ⟨before, d, after, h, hlast, hspares⟩
    cases before with
    | nil =>
      obtain ⟨rfl, rfl⟩ := List.cons.inj h
      exact Or.inr ⟨hlast, hspares⟩
    | cons b before => exact Or.inl ⟨before, d, after, (List.cons.inj h).2, hlast, hspares⟩
  · rintro (⟨before, d, after, rfl, hlast, hspares⟩ | ⟨hlast, hspares⟩)
    · exact ⟨c :: before, d, after, rfl, hlast, hspares⟩
    · exact ⟨[], c, changes, rfl, hlast, hspares⟩

end Entry

namespace Shelf

/-- Change sets in turn leave a shelf in order. -/
theorem Ordered.foldl_apply {s : Shelf} (h : s.Ordered) (changes : List ResourceChanges) : (changes.foldl Shelf.apply s).Ordered := by
  induction changes generalizing s with
  | nil => exact h
  | cons c changes ih => exact ih (h.apply c)

/-- After change sets a shelf has what is left of them, and of what it had before the entries that all of them spare. -/
theorem mem_foldl_apply {s : Shelf} (h : s.Ordered) (changes : List ResourceChanges) (e : Entry) :
    e ∈ changes.foldl Shelf.apply s ↔ e.Left changes ∨ e ∈ s ∧ ∀ d ∈ changes, ResourceChanges.Spares d e.reference := by
  induction changes generalizing s with
  | nil => simp [Entry.not_left_nil]
  | cons c changes ih =>
    rw [List.foldl_cons, ih (h.apply c), mem_apply_iff h, Entry.left_cons_iff, List.forall_mem_cons, ResourceChanges.Spares]
    tauto

end Shelf

namespace Catalog

/-- The catalog after change sets for services, one after the other. -/
def applyAll (c : Catalog) (calls : List (AccessUrl × ResourceChanges)) : Catalog :=
  calls.foldl (fun c call => c.apply call.1 call.2) c

/-- The change sets that are for a service, in order. -/
def changesFor (service : AccessUrl) (calls : List (AccessUrl × ResourceChanges)) : List ResourceChanges :=
  (calls.filter fun call => call.1 == service).map Prod.snd

/-- What the catalog has of a service depends on the change sets for this service alone. -/
theorem entries_applyAll (c : Catalog) (calls : List (AccessUrl × ResourceChanges)) (service : AccessUrl) :
    (c.applyAll calls).entries service = (changesFor service calls).foldl Shelf.apply (c.entries service) := by
  induction calls generalizing c with
  | nil => rfl
  | cons call calls ih =>
    obtain ⟨url, changes⟩ := call
    have hstep : (c.applyAll ((url, changes) :: calls)).entries service = ((c.apply url changes).applyAll calls).entries service := rfl
    rw [hstep, ih]
    unfold changesFor
    by_cases h : url = service
    · subst h
      rw [entries_apply_self, List.filter_cons, if_pos (beq_self_eq_true url), List.map_cons, List.foldl_cons]
    · rw [entries_apply_other c (Ne.symm h), List.filter_cons, if_neg (by simpa using h)]

/-- A store in which every service has at most one shelf, and no shelf is empty. -/
structure Tidy (c : Catalog) : Prop where
  services : (c.shelves.map Prod.fst).Nodup
  filled : ∀ p ∈ c.shelves, p.2 ≠ []

/-- The empty catalog is tidy. -/
theorem tidy_empty : empty.Tidy := ⟨List.nodup_nil, List.forall_mem_nil _⟩

/-- A call leaves a tidy catalog tidy: a shelf that gets empty is taken away. -/
theorem Tidy.apply {c : Catalog} (h : c.Tidy) (service : AccessUrl) (changes : ResourceChanges) : (c.apply service changes).Tidy := by
  let others := c.shelves.filter fun s => s.1 != service
  have hservices : (others.map Prod.fst).Nodup := h.services.sublist (List.filter_sublist.map _)
  have hfilled : ∀ p ∈ others, p.2 ≠ [] := fun p hp => h.filled p (List.mem_of_mem_filter hp)
  have hnew : service ∉ others.map Prod.fst := by simp [others]
  unfold Catalog.apply
  by_cases hshelf : (c.entries service).apply changes = []
  · simp only [hshelf, List.isEmpty_nil, if_true]
    exact ⟨hservices, hfilled⟩
  · simp only [List.isEmpty_iff, hshelf, if_false]
    refine ⟨?_, List.forall_mem_append.2 ⟨hfilled, List.forall_mem_singleton.2 hshelf⟩⟩
    exact Table.nodup_append_singleton hservices hnew _

/-- So do any calls in turn. -/
theorem Tidy.applyAll {c : Catalog} (h : c.Tidy) (calls : List (AccessUrl × ResourceChanges)) : (c.applyAll calls).Tidy := by
  induction calls generalizing c with
  | nil => exact h
  | cons call calls ih => exact ih (h.apply call.1 call.2)

/-- In a tidy store the shelves are the entries of the services that have any. -/
theorem Tidy.mem_shelves_iff {c : Catalog} (h : c.Tidy) (service : AccessUrl) (shelf : Shelf) :
    (service, shelf) ∈ c.shelves ↔ shelf ≠ [] ∧ shelf = c.entries service := by
  constructor
  · intro hm
    refine ⟨h.filled _ hm, ?_⟩
    rw [entries, Table.lookup_of_mem h.services hm]
    rfl
  · rintro ⟨hne, rfl⟩
    cases hl : c.shelves.lookup service with
    | none => simp [entries, hl] at hne
    | some shelf =>
      have hentries : c.entries service = shelf := by simp [entries, hl]
      rw [hentries]
      exact Table.mem_of_lookup hl

/-- After any change sets for any services, the catalog that was empty at first has of a service what the change sets for this service
alone make of nothing: of each reference the content of its last addition, be it in one change set with an earlier addition or with a
removal, unless a later change set removes the reference. The entries stand in the order of their references, each reference once, the
references are listed likewise, and the store has a place for the service exactly if there are entries. -/
theorem applyAll_folds (calls : List (AccessUrl × ResourceChanges)) (service : AccessUrl) :
    let catalog := empty.applyAll calls
    catalog.entries service = (changesFor service calls).foldl Shelf.apply [] ∧
    (∀ e, e ∈ catalog.entries service ↔ e.Left (changesFor service calls)) ∧
    (catalog.entries service).Ordered ∧ catalog.references service = (catalog.entries service).map Entry.reference ∧
    ∀ shelf, (service, shelf) ∈ catalog.shelves ↔ shelf ≠ [] ∧ shelf = catalog.entries service := by
  intro catalog
  have hfold : catalog.entries service = (changesFor service calls).foldl Shelf.apply [] := entries_applyAll empty calls service
  refine ⟨hfold, fun e => ?_, ?_, rfl, (tidy_empty.applyAll calls).mem_shelves_iff service⟩
  · rw [hfold, Shelf.mem_foldl_apply Shelf.ordered_nil]
    simp
  · rw [hfold]
    exact Shelf.ordered_nil.foldl_apply _

/-- Two services with one reference: of the first it keeps the second addition of a change set that removes it as well, of the second,
where a later change set removes it, nothing is left. -/
theorem applyAll_folds_two_services :
    let one : AccessUrl := ⟨"http://one"⟩
    let two : AccessUrl := ⟨"http://two"⟩
    let r : Reference := .root .submodel "A"
    let calls : List (AccessUrl × ResourceChanges) := [(one, ⟨[⟨r, .str "1"⟩, ⟨r, .str "2"⟩], [r]⟩), (two, ⟨[⟨r, .str "3"⟩], []⟩),
      (one, ⟨[], [.root .shell "B"]⟩), (two, ⟨[], [r]⟩)]
    Entry.Left ⟨r, .str "2"⟩ (changesFor one calls) ∧ (∀ e, ¬Entry.Left e (changesFor two calls)) ∧
      ∀ shelf, (two, shelf) ∉ (empty.applyAll calls).shelves := by
  intro one two r calls
  obtain ⟨hone, hleft, _⟩ := applyAll_folds calls one
  obtain ⟨htwo, hnothing, _, _, hshelves⟩ := applyAll_folds calls two
  have hkept : (changesFor one calls).foldl Shelf.apply [] = [⟨r, .str "2"⟩] := by
    simp [changesFor, calls, one, two, r, Shelf.apply, Shelf.erase, Shelf.insert, Reference.compare, Reference.root, Reference.comparePath]
  have hgone : (changesFor two calls).foldl Shelf.apply [] = [] := by
    simp [changesFor, calls, one, two, Shelf.apply, Shelf.erase, Shelf.insert]
  refine ⟨(hleft _).1 ?_, fun e he => ?_, fun shelf hm => ?_⟩
  · rw [hone, hkept]
    exact List.mem_cons_self
  · have hm := (hnothing e).2 he
    rw [htwo, hgone] at hm
    exact List.not_mem_nil hm
  · obtain ⟨hne, he⟩ := (hshelves shelf).1 hm
    exact hne (he.trans (htwo.trans hgone))

end Catalog

end CatalogSync
