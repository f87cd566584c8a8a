import CatalogSync.Catalog
import CatalogSync.Proofs.Json.Equality
import CatalogSync.Proofs.Resource.Order
import CatalogSync.Proofs.Table

/-!
# Shelves

A shelf is a finite map from references to contents, kept in the order of references. `Shelf.Shows` says which entries it has, up to
equality of JSON contents, and `Shelf.mem_apply` which entries it has after a change set. A catalog applies a change set to one
service and leaves the others alone (`Catalog.entries_apply_self`, `Catalog.entries_apply_other`).
-/

namespace CatalogSync

open Std

namespace Entry

/-- Entries are the same if their references are equal and their contents the same. -/
theorem same_iff (a b : Entry) : a.same b = true ↔ a.reference = b.reference ∧ a.content.same b.content = true := by
  simp [same]

theorem same_refl (a : Entry) : a.same a = true := (same_iff a a).2 ⟨rfl, Json.same_refl _⟩

theorem same_trans {a b c : Entry} (h : a.same b = true) (h' : b.same c = true) : a.same c = true := by
  rw [same_iff] at *
  exact ⟨h.1.trans h'.1, Json.same_trans h.2 h'.2⟩

/-- That an entry is the last one of its reference in a list. -/
def LastIn (e : Entry) (es : List Entry) : Prop := ∃ before after, es = before ++ e :: after ∧ e.reference ∉ after.map Entry.reference

theorem not_lastIn_nil (e : Entry) : ¬e.LastIn [] := by
  rintro ⟨before, after, h, _⟩
  simp at h

/-- A first entry is the last of its reference only if there is none further on. -/
theorem lastIn_cons_iff (e x : Entry) (es : List Entry) :
    e.LastIn (x :: es) ↔ e.LastIn es ∨ e = x ∧ e.reference ∉ es.map Entry.reference := by
  constructor
  · rintro ⟨before, after, h, hn⟩
    cases before with
    | nil =>
      obtain ⟨rfl, rfl⟩ := List.cons.inj h
      exact Or.inr ⟨rfl, hn⟩
    | cons y before => exact Or.inl ⟨before, after, (List.cons.inj h).2, hn⟩
  · rintro (⟨before, after, rfl, hn⟩ | ⟨rfl, hn⟩)
    · exact ⟨x :: before, after, rfl, hn⟩
    · exact ⟨[], es, rfl, hn⟩

/-- In a list with each reference once, every entry is the last one of its reference. -/
theorem lastIn_iff_mem {es : List Entry} (h : (es.map Entry.reference).Nodup) {e : Entry} : e.LastIn es ↔ e ∈ es := by
  constructor
  · rintro ⟨before, after, rfl, _⟩
    exact List.mem_append_right _ List.mem_cons_self
  · intro he
    obtain ⟨before, after, rfl⟩ := List.append_of_mem he
    rw [List.map_append, List.map_cons] at h
    exact ⟨before, after, rfl, (List.nodup_cons.1 (List.nodup_append.1 h).2.1).1⟩

end Entry

namespace Shelf

/-- Each reference once, in increasing order. -/
def Ordered (s : Shelf) : Prop := List.Pairwise (fun a b => Reference.compare a.reference b.reference = .lt) s

/-- A shelf has exactly the given entries, with contents up to equality of JSON values: each reference once, in increasing order,
every entry of the shelf among the given ones, and every given one on the shelf. -/
structure Shows (s : Shelf) (es : List Entry) : Prop where
  ordered : s.Ordered
  given : ∀ e ∈ s, ∃ x ∈ es, e.same x = true
  listed : ∀ x ∈ es, ∃ e ∈ s, e.same x = true

theorem ordered_nil : Ordered [] := List.Pairwise.nil

/-- A shelf in order shows its own entries. -/
theorem Ordered.shows_self {s : Shelf} (h : s.Ordered) : s.Shows s :=
  ⟨h, fun e he => ⟨e, he, Entry.same_refl e⟩, fun e he => ⟨e, he, Entry.same_refl e⟩⟩

/-- A shelf with nothing to show is empty. -/
theorem shows_nil_iff (s : Shelf) : s.Shows [] ↔ s = [] := by
  constructor
  · intro h
    cases s with
    | nil => rfl
    | cons e s =>
      obtain ⟨x, hx, _⟩ := h.given e List.mem_cons_self
      nomatch hx
  · rintro rfl
    exact ⟨ordered_nil, by simp, by simp⟩

/-- What is left after a reference is taken off is all that has another reference. -/
theorem mem_erase (s : Shelf) (r : Reference) (e : Entry) : e ∈ s.erase r ↔ e ∈ s ∧ e.reference ≠ r := by
  simp [erase]

/-- Taking a reference off leaves a shelf in order. -/
theorem Ordered.erase {s : Shelf} (h : s.Ordered) (r : Reference) : (s.erase r).Ordered := List.Pairwise.filter _ h

/-- On an ordered shelf an entry comes before all that follow it, and has a reference of its own. -/
theorem Ordered.ne_of_mem {x : Entry} {s : Shelf} (h : Ordered (x :: s)) {e : Entry} (he : e ∈ s) :
    e.reference ≠ x.reference :=
  (Reference.ne_of_lt (List.rel_of_pairwise_cons h he)).symm

/-- On an ordered shelf, inserting puts an entry in the place of its reference. -/
theorem mem_insert {s : Shelf} (h : s.Ordered) (x e : Entry) :
    e ∈ s.insert x ↔ e = x ∨ e ∈ s ∧ e.reference ≠ x.reference := by
  induction s with
  | nil => simp [insert]
  | cons y s ih =>
    have hy : ∀ e ∈ s, Reference.compare y.reference e.reference = .lt := fun e he => List.rel_of_pairwise_cons h he
    unfold insert
    split
    · rename_i hlt
      -- everything on the shelf comes after the new entry, so nothing gives way to it
      have hne : ∀ e ∈ y :: s, e.reference ≠ x.reference := by
        intro e he
        apply Ne.symm
        rcases List.mem_cons.1 he with rfl | he
        · exact Reference.ne_of_lt hlt
        · exact Reference.ne_of_lt (TransCmp.lt_trans hlt (hy e he))
      rw [List.mem_cons]
      exact or_congr_right ⟨fun he => ⟨he, hne e he⟩, And.left⟩
    · rename_i heq
      have hxy : x.reference = y.reference := LawfulEqCmp.eq_of_compare heq
      simp only [List.mem_cons]
      constructor
      · rintro (rfl | he)
        · exact Or.inl rfl
        · exact Or.inr ⟨Or.inr he, hxy ▸ Ordered.ne_of_mem h he⟩
      · rintro (rfl | ⟨rfl | he, hne⟩)
        · exact Or.inl rfl
        · exact absurd hxy.symm hne
        · exact Or.inr he
    · rename_i hgt
      have hyx : y.reference ≠ x.reference := Reference.ne_of_lt (OrientedCmp.lt_of_gt hgt)
      rw [List.mem_cons, ih h.of_cons, List.mem_cons]
      constructor
      · rintro (rfl | rfl | ⟨he, hne⟩)
        · exact Or.inr ⟨Or.inl rfl, hyx⟩
        · exact Or.inl rfl
        · exact Or.inr ⟨Or.inr he, hne⟩
      · rintro (rfl | ⟨rfl | he, hne⟩)
        · exact Or.inr (Or.inl rfl)
        · exact Or.inl rfl
        · exact Or.inr (Or.inr ⟨he, hne⟩)

/-- So does putting an entry on it, in place of the one that was there. -/
theorem Ordered.insert {s : Shelf} (h : s.Ordered) (x : Entry) : (s.insert x).Ordered := by
  induction s with
  | nil => exact List.pairwise_singleton _ _
  | cons y s ih =>
    have hy : ∀ e ∈ s, Reference.compare y.reference e.reference = .lt := fun e he => List.rel_of_pairwise_cons h he
    unfold Shelf.insert
    split
    · rename_i hlt
      refine List.Pairwise.cons ?_ h
      intro e he
      rcases List.mem_cons.1 he with rfl | he
      · exact hlt
      · exact TransCmp.lt_trans hlt (hy e he)
    · rename_i heq
      have hxy : x.reference = y.reference := LawfulEqCmp.eq_of_compare heq
      exact List.Pairwise.cons (fun e he => hxy ▸ hy e he) h.of_cons
    · rename_i hgt
      refine List.Pairwise.cons ?_ (ih h.of_cons)
      intro e he
      rcases (mem_insert h.of_cons x e).1 he with rfl | ⟨he, _⟩
      · exact OrientedCmp.lt_of_gt hgt
      · exact hy e he

/-- Erasing references one after the other leaves the entries of the others. -/
theorem mem_foldl_erase (s : Shelf) (rs : List Reference) (e : Entry) :
    e ∈ rs.foldl Shelf.erase s ↔ e ∈ s ∧ e.reference ∉ rs := by
  induction rs generalizing s with
  | nil => simp
  | cons r rs ih =>
    rw [List.foldl_cons, ih, mem_erase, List.mem_cons, not_or, and_assoc]

/-- So does taking several references off. -/
theorem Ordered.foldl_erase {s : Shelf} (h : s.Ordered) (rs : List Reference) : (rs.foldl Shelf.erase s).Ordered := by
  induction rs generalizing s with
  | nil => exact h
  | cons r rs ih => exact ih (h.erase r)

/-- So does putting several entries on it. -/
theorem Ordered.foldl_insert {s : Shelf} (h : s.Ordered) (xs : List Entry) : (xs.foldl Shelf.insert s).Ordered := by
  induction xs generalizing s with
  | nil => exact h
  | cons x xs ih => exact ih (h.insert x)

/-- Inserting entries one after the other puts the last one of each reference in its place. -/
theorem mem_foldl_insert {s : Shelf} (h : s.Ordered) (xs : List Entry) (e : Entry) :
    e ∈ xs.foldl Shelf.insert s ↔ e.LastIn xs ∨ e ∈ s ∧ e.reference ∉ xs.map Entry.reference := by
  induction xs generalizing s with
  | nil => simp [Entry.not_lastIn_nil]
  | cons x xs ih =>
    rw [List.foldl_cons, ih (h.insert x), mem_insert h, Entry.lastIn_cons_iff, List.map_cons, List.mem_cons, not_or]
    constructor
    · rintro (he | ⟨rfl | ⟨he, hne⟩, hn⟩)
      · exact Or.inl (Or.inl he)
      · exact Or.inl (Or.inr ⟨rfl, hn⟩)
      · exact Or.inr ⟨he, hne, hn⟩
    · rintro ((he | ⟨rfl, hn⟩) | ⟨he, hne, hn⟩)
      · exact Or.inl he
      · exact Or.inr ⟨Or.inl rfl, hn⟩
      · exact Or.inr ⟨Or.inr ⟨he, hne⟩, hn⟩

/-- A change set leaves a shelf in order. -/
theorem Ordered.apply {s : Shelf} (h : s.Ordered) (c : ResourceChanges) : (s.apply c).Ordered :=
  (h.foldl_erase c.toRemove).foldl_insert c.toAdd

/-- After a change set a shelf has the last addition of each reference that was added, and of the rest what was not removed. -/
theorem mem_apply_iff {s : Shelf} (h : s.Ordered) (c : ResourceChanges) (e : Entry) :
    e ∈ s.apply c ↔ e.LastIn c.toAdd ∨ e ∈ s ∧ e.reference ∉ c.toRemove ∧ e.reference ∉ c.toAdd.map Entry.reference := by
  unfold Shelf.apply
  rw [mem_foldl_insert (h.foldl_erase c.toRemove), mem_foldl_erase, and_assoc]

/-- After a change set that adds each reference once, a shelf has what was added, and of the rest what was not removed. -/
theorem mem_apply {s : Shelf} (h : s.Ordered) {c : ResourceChanges} (hc : (c.toAdd.map Entry.reference).Nodup) (e : Entry) :
    e ∈ s.apply c ↔ e ∈ c.toAdd ∨ e ∈ s ∧ e.reference ∉ c.toRemove ∧ e.reference ∉ c.toAdd.map Entry.reference := by
  rw [mem_apply_iff h, Entry.lastIn_iff_mem hc]

/-- A change set with nothing to do leaves a shelf as it is. -/
theorem apply_of_isEmpty (s : Shelf) {c : ResourceChanges} (hc : c.isEmpty = true) : s.apply c = s := by
  simp only [ChangeSet.isEmpty, Bool.and_eq_true, List.isEmpty_iff] at hc
  simp [Shelf.apply, hc.1, hc.2]

end Shelf

namespace Catalog

/-- The entries of a service after a change set for it. -/
theorem entries_apply_self (c : Catalog) (service : AccessUrl) (changes : ResourceChanges) :
    (c.apply service changes).entries service = (c.entries service).apply changes := by
  simp only [apply, entries]
  by_cases h : ((c.shelves.lookup service).getD []).apply changes = []
  · simp [h, Table.lookup_filter_ne]
  · simp [h, Table.lookup_append_singleton, Table.lookup_filter_ne]

/-- A change set for one service leaves the entries of every other service as they are. -/
theorem entries_apply_other (c : Catalog) {service other : AccessUrl} (h : other ≠ service) (changes : ResourceChanges) :
    (c.apply service changes).entries other = c.entries other := by
  simp only [apply, entries]
  by_cases hs : ((c.shelves.lookup service).getD []).apply changes = []
  · simp [hs, Table.lookup_filter_ne, h]
  · simp [hs, Table.lookup_append_singleton, Table.lookup_filter_ne, h]

end Catalog

end CatalogSync
