import CatalogSync.AccessUrl

/-!
# Tables

Tables are lists of pairs, looked up by their keys. Where each key occurs once, the pairs of a table are its look-ups. The registry and
the catalog keep their parts in tables by URL, and these are the look-ups after the ways in which such a table changes: a URL is taken
out, a new one is added at the end, or the value of one is replaced.
-/

namespace CatalogSync.Table

section

variable {α β : Type} {l : List (α × β)} {a : α} {v : β}

/-- A pair with a new key at the end leaves each key once. -/
theorem nodup_append_singleton (h : (l.map Prod.fst).Nodup) (hn : a ∉ l.map Prod.fst) (v : β) :
    ((l ++ [(a, v)]).map Prod.fst).Nodup := by
  rw [List.map_append, List.nodup_append]
  refine ⟨h, List.pairwise_singleton _ a, fun key hk key' hk' he => hn ?_⟩
  obtain rfl : key' = a := List.mem_singleton.1 hk'
  exact he ▸ hk

variable [BEq α] [LawfulBEq α]

/-- What a key is looked up to stands in the table, whatever the keys are. -/
theorem mem_of_lookup (h : l.lookup a = some v) : (a, v) ∈ l := by
  obtain ⟨before, after, rfl, _⟩ := List.lookup_eq_some_iff.1 h
  exact List.mem_append_right _ List.mem_cons_self

/-- A key without a pair is looked up in vain. -/
theorem lookup_eq_none (h : a ∉ l.map Prod.fst) : l.lookup a = none :=
  List.lookup_eq_none_iff.2 fun _ he => bne_iff_ne.2 fun hae => h (hae ▸ List.mem_map_of_mem he)

/-- Where each key occurs once, a pair is what its key is looked up to. -/
theorem lookup_of_mem (h : (l.map Prod.fst).Nodup) (hm : (a, v) ∈ l) : l.lookup a = some v := by
  obtain ⟨before, after, rfl⟩ := List.append_of_mem hm
  refine List.lookup_eq_some_iff.2 ⟨before, after, rfl, fun e he => ?_⟩
  rw [List.map_append, List.nodup_append] at h
  have hne : e.1 ≠ a := h.2.2 e.1 (List.mem_map_of_mem he) a List.mem_cons_self
  simpa using hne.symm

end

variable {β : Type} (l : List (AccessUrl × β)) (a b : AccessUrl) (v : β)

/-- Taking a URL out leaves the values of the others. -/
theorem lookup_filter_ne : (l.filter fun e => e.1 != a).lookup b = if b = a then none else l.lookup b := by
  induction l with
  | nil => simp
  | cons e l ih =>
    obtain ⟨k, w⟩ := e
    by_cases hk : k = a
    · subst hk
      rw [List.filter_cons_of_neg (by simp), ih]
      by_cases hb : b = k
      · simp [hb]
      · have hbk : (b == k) = false := by simpa using hb
        simp [hb, List.lookup_cons, hbk]
    · rw [List.filter_cons_of_pos (by simpa using hk), List.lookup_cons, List.lookup_cons, ih]
      by_cases hb : b = k
      · simp [hb, hk]
      · have hbk : (b == k) = false := by simpa using hb
        simp [hbk]

/-- A pair added at the end counts for its URL if there was none before. -/
theorem lookup_append_singleton : (l ++ [(a, v)]).lookup b = (l.lookup b).or (if b = a then some v else none) := by
  rw [List.lookup_append, List.lookup_cons, List.lookup_nil]
  by_cases hb : b = a
  · simp [hb]
  · have hba : (b == a) = false := by simpa using hb
    simp [hb, hba]

/-- Replacing the value of a URL changes the look-up of that URL only, and adds nothing. -/
theorem lookup_replace :
    (l.map fun e => if e.1 == a then (e.1, v) else e).lookup b =
      if b = a then (l.lookup a).map fun _ => v else l.lookup b := by
  induction l with
  | nil => simp
  | cons e l ih =>
    obtain ⟨k, w⟩ := e
    by_cases hk : k = a
    · subst hk
      by_cases hb : b = k
      · simp [hb]
      · have hbk : (b == k) = false := by simpa using hb
        simp only [List.map_cons, beq_self_eq_true, if_true, List.lookup_cons, hbk, ih, if_neg hb]
    · have hka : (k == a) = false := by simpa using hk
      have hak : (a == k) = false := by simpa using fun h => hk h.symm
      simp only [List.map_cons, hka, Bool.false_eq_true, if_false, List.lookup_cons, ih]
      by_cases hb : b = k
      · subst hb
        simp [hk]
      · have hbk : (b == k) = false := by simpa using hb
        simp [hbk, hak]

end CatalogSync.Table
