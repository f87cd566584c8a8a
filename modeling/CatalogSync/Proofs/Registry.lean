import CatalogSync.Proofs.Table
import CatalogSync.Registry

/-!
# Entries of the registry

Each operation of the registry changes the entry of one URL at most. A change of the registry is one of them (`Registry.Edit`), so
what all of them keep holds after any: every service is kept under its own URL, and each URL has one entry.
-/

namespace CatalogSync

namespace AccessUrl

instance : Std.TransOrd AccessUrl where
  eq_swap := Std.OrientedOrd.eq_swap (α := String)
  isLE_trans := Std.TransOrd.isLE_trans (α := String)

instance : Std.LawfulEqOrd AccessUrl where
  compare_self := Std.ReflOrd.compare_self (α := String)
  eq_of_compare h := congrArg mk (Std.LawfulEqOrd.eq_of_compare (α := String) h)

end AccessUrl

namespace Registry

variable (r : Registry)

/-- Every service is kept under its own URL. -/
def Keyed : Prop := ∀ url s, r.get? url = some s → s.url = url

/-- The empty registry keeps nothing under a wrong URL. -/
theorem keyed_empty : empty.Keyed := fun _ _ h => nomatch h

/-- The entries after a registration: a new one under the URL of the service, if there was none. -/
theorem get?_put (s : Service) (url : AccessUrl) :
    (r.put s).2.get? url = (r.get? url).or (if url = s.url then some s else none) := by
  unfold put contains
  by_cases h : (r.get? s.url).isSome = true
  · rw [if_pos h]
    by_cases hu : url = s.url
    · obtain ⟨x, hx⟩ := Option.isSome_iff_exists.1 h
      simp [hu, hx]
    · simp [hu]
  · rw [if_neg h]
    exact Table.lookup_append_singleton r.entries s.url url s

/-- A registration succeeds exactly if there was no entry. -/
theorem fst_put (s : Service) : (r.put s).1 = (r.get? s.url).isNone := by
  unfold put contains
  cases r.get? s.url <;> rfl

/-- A registration that does not succeed changes nothing. -/
theorem put_eq_self {r : Registry} {s : Service} (h : (r.put s).1 = false) : (r.put s).2 = r := by
  unfold put at h ⊢
  split
  · rfl
  · rename_i hc
    rw [if_neg hc] at h
    nomatch h

/-- A removal leaves no entry of the URL, and every other one as it was. -/
theorem get?_remove (url url' : AccessUrl) : (r.remove url).2.get? url' = if url' = url then none else r.get? url' :=
  Table.lookup_filter_ne r.entries url url'

/-- A removal that finds no entry takes none out. -/
theorem get?_remove_of_isNone {url : AccessUrl} (h : (r.remove url).1 = none) (url' : AccessUrl) :
    (r.remove url).2.get? url' = r.get? url' := by
  rw [get?_remove]
  split
  · rename_i hu
    exact hu ▸ h.symm
  · rfl

/-- A replacement changes the entry of its URL if there is one, and adds none. -/
theorem get?_replace (s : Service) (url : AccessUrl) :
    (r.replace s).get? url = if url = s.url then (r.get? s.url).map fun _ => s else r.get? url :=
  Table.lookup_replace r.entries s.url url s

variable {r}

/-- A new service is kept under its own URL. -/
theorem Keyed.put (h : r.Keyed) (s : Service) : (r.put s).2.Keyed := by
  intro url x hx
  rw [get?_put, Option.or_eq_some_iff] at hx
  rcases hx with hx | ⟨_, hx⟩
  · exact h url x hx
  · split at hx
    · rename_i hu
      cases hx
      exact hu.symm
    · nomatch hx

/-- A removal moves no service to another URL. -/
theorem Keyed.remove (h : r.Keyed) (url : AccessUrl) : (r.remove url).2.Keyed := by
  intro url' x hx
  rw [get?_remove] at hx
  split at hx
  · nomatch hx
  · exact h url' x hx

/-- Nor does a replacement. -/
theorem Keyed.replace (h : r.Keyed) (s : Service) : (r.replace s).Keyed := by
  intro url x hx
  rw [get?_replace] at hx
  split at hx
  · rename_i hu
    obtain ⟨_, _, rfl⟩ := Option.map_eq_some_iff.1 hx
    exact hu.symm
  · exact h url x hx

/-- An exchange of snapshots replaces the entry that has the expected one; otherwise the error says why it does not. -/
theorem swap_cases (r : Registry) (now : Nat) (url : AccessUrl) (expected : Option Snapshot) (new : Snapshot) :
    (∃ s, r.get? url = some s ∧ s.snapshot.map Snapshot.id = expected.map Snapshot.id ∧
      r.swap now url expected new = .ok (s.snapshot, r.replace { s with snapshot := some new, lastSynced := some now })) ∨
    (∃ s, r.get? url = some s ∧ s.snapshot.map Snapshot.id ≠ expected.map Snapshot.id ∧
      r.swap now url expected new = .error (.snapshotConflict url)) ∨
    (r.get? url = none ∧ r.swap now url expected new = .error (.notRegistered url)) := by
  unfold swap
  cases hs : r.get? url with
  | none => exact Or.inr (Or.inr ⟨rfl, rfl⟩)
  | some s =>
    by_cases hid : s.snapshot.map Snapshot.id = expected.map Snapshot.id
    · exact Or.inl ⟨s, rfl, hid, if_pos hid⟩
    · exact Or.inr (Or.inl ⟨s, rfl, hid, if_neg hid⟩)

/-- What may happen to the registry at once. -/
inductive Edit (r : Registry) : Registry → Prop where
  | same : Edit r r
  | put (s : Service) : Edit r (r.put s).2
  | remove (url : AccessUrl) : Edit r (r.remove url).2
  | store {url : AccessUrl} {s : Service} (h : r.get? url = some s) (new : Snapshot) (time : Nat) :
    Edit r (r.replace { s with snapshot := some new, lastSynced := some time })

/-- Whatever is done to a registry, services are kept under their own URLs. -/
theorem Keyed.edit {r' : Registry} (h : r.Keyed) (he : r.Edit r') : r'.Keyed := by
  cases he with
  | same => exact h
  | put s => exact h.put s
  | remove url => exact h.remove url
  | store => exact h.replace _

/-- A change of the registry takes an entry out or leaves its origin as it is. -/
theorem Edit.origin {r' : Registry} (h : r.Edit r') (hk : r.Keyed) {url : AccessUrl} {s : Service} (hs : r.get? url = some s) :
    r'.get? url = none ∨ ∃ s', r'.get? url = some s' ∧ s'.origin = s.origin := by
  cases h with
  | same => exact Or.inr ⟨s, hs, rfl⟩
  | put s' => exact Or.inr ⟨s, by rw [get?_put, hs]; rfl, rfl⟩
  | remove url' =>
    rw [get?_remove]
    by_cases hu : url = url'
    · exact Or.inl (if_pos hu)
    · exact Or.inr ⟨s, by rw [if_neg hu, hs], rfl⟩
  | @store url' s' hs' new time =>
    rw [get?_replace]
    by_cases hu : url = s'.url
    · obtain rfl : s = s' := Option.some.inj (hs.symm.trans (hu ▸ (hk _ _ hs').symm ▸ hs'))
      refine Or.inr ⟨{ s with snapshot := some new, lastSynced := some time }, ?_, rfl⟩
      rw [if_pos hu, ← hu, hs]
      rfl
    · exact Or.inr ⟨s, by rw [if_neg hu, hs], rfl⟩

/-- Each URL has one entry, with a service of that URL. -/
structure Distinct (r : Registry) : Prop where
  keyed : ∀ e ∈ r.entries, e.2.url = e.1
  nodup : (r.entries.map Prod.fst).Nodup

/-- The empty registry has no URL twice. -/
theorem distinct_empty : empty.Distinct := ⟨by simp [empty], by simp [empty]⟩

/-- A service is put only where none is. -/
theorem Distinct.put (h : r.Distinct) (s : Service) : (r.put s).2.Distinct := by
  unfold Registry.put
  split
  · exact h
  · rename_i hn
    have hnew : s.url ∉ r.entries.map Prod.fst := by
      simpa [contains, get?, List.lookup_eq_none_iff] using hn
    refine ⟨fun e he => ?_, ?_⟩
    · rcases List.mem_append.1 he with he | he
      · exact h.keyed e he
      · obtain rfl := List.mem_singleton.1 he
        rfl
    · exact Table.nodup_append_singleton h.nodup hnew s

/-- A removal leaves one entry for each of the other URLs. -/
theorem Distinct.remove (h : r.Distinct) (url : AccessUrl) : (r.remove url).2.Distinct :=
  ⟨fun e he => h.keyed e (List.mem_filter.1 he).1, h.nodup.sublist (List.filter_sublist.map _)⟩

/-- A replacement leaves one entry for each URL. -/
theorem Distinct.replace (h : r.Distinct) (s : Service) : (r.replace s).Distinct := by
  refine ⟨fun e he => ?_, ?_⟩
  · obtain ⟨e', he', rfl⟩ := List.mem_map.1 he
    split
    · rename_i hu
      exact (eq_of_beq hu).symm
    · exact h.keyed e' he'
  · have hkeys : (r.replace s).entries.map Prod.fst = r.entries.map Prod.fst := by
      rw [Registry.replace, List.map_map]
      refine List.map_congr_left fun e _ => ?_
      simp only [Function.comp_apply]
      split <;> rfl
    exact hkeys ▸ h.nodup

/-- So does an update, whether or not it finds its entry. -/
theorem Distinct.update (h : r.Distinct) (s : Service) : (r.update s).2.Distinct := by
  unfold Registry.update
  split
  · exact h.replace s
  · exact h

/-- Whatever is done to a registry, it has one entry for each of its URLs. -/
theorem Distinct.edit {r' : Registry} (h : r.Distinct) (he : r.Edit r') : r'.Distinct := by
  cases he with
  | same => exact h
  | put s => exact h.put s
  | remove url => exact h.remove url
  | store => exact h.replace _

/-- Distinct entries are those of their services' URLs. -/
theorem Distinct.url_eq (h : r.Distinct) {url : AccessUrl} {s : Service} (hs : r.get? url = some s) : s.url = url :=
  h.keyed (url, s) (Table.mem_of_lookup hs)

/-- A listed service is the entry of its URL. -/
theorem Distinct.get?_of_mem_getAll (h : r.Distinct) {s : Service} (hs : s ∈ r.getAll) : r.get? s.url = some s := by
  obtain ⟨e, he, rfl⟩ := List.mem_map.1 ((List.mergeSort_perm _ _).subset hs)
  refine Table.lookup_of_mem h.nodup ?_
  rwa [h.keyed e he]

/-- Listed services have different URLs. -/
theorem Distinct.nodup_getAll (h : r.Distinct) : (r.getAll.map Service.url).Nodup := by
  have hperm : (r.getAll.map Service.url).Perm (r.entries.map Prod.fst) := by
    refine ((List.mergeSort_perm _ _).map _).trans ?_
    rw [List.map_map]
    exact List.Perm.of_eq (List.map_congr_left h.keyed)
  exact hperm.nodup_iff.2 h.nodup

/-- The listed services are the entries. -/
theorem Distinct.mem_getAll_iff (h : r.Distinct) {s : Service} : s ∈ r.getAll ↔ r.get? s.url = some s := by
  refine ⟨h.get?_of_mem_getAll, fun hs => ?_⟩
  exact (List.mergeSort_perm _ _).symm.subset (List.mem_map_of_mem (f := Prod.snd) (Table.mem_of_lookup hs))

/-- Services are listed in the order of their URLs. -/
theorem Distinct.sorted_getAll (h : r.Distinct) : (r.getAll.map Service.url).Pairwise fun a b => compare a b = .lt := by
  have hle : r.getAll.Pairwise fun a b => (compare a.url b.url).isLE = true := by
    refine List.pairwise_mergeSort (fun a b c hab hbc => ?_) (fun a b => ?_) _
    · exact Std.TransOrd.isLE_trans hab hbc
    · rw [Std.OrientedOrd.eq_swap (a := a.url)]
      cases compare b.url a.url <;> rfl
  refine List.pairwise_map.2 ((hle.and (List.pairwise_map.1 h.nodup_getAll)).imp fun {a b} hab => ?_)
  obtain ⟨hle, hne⟩ := hab
  cases hc : compare a.url b.url with
  | lt => rfl
  | eq => exact absurd (Std.LawfulEqOrd.eq_of_compare hc) hne
  | gt =>
    rw [hc] at hle
    nomatch hle

/-- The listing holds each entry once. -/
theorem length_getAll (r : Registry) : r.getAll.length = r.size := by
  rw [getAll, List.length_mergeSort, List.length_map, size]

end Registry

end CatalogSync
