import CatalogSync.Resource.Reference

/-!
# The order of references

References are linearly ordered: by kind, then id, then path. Two references are equal in the order exactly if they are equal.
-/

namespace CatalogSync

open Std

/-- Kinds have distinct ranks. -/
theorem ResourceKind.rank_injective {a b : ResourceKind} (h : a.rank = b.rank) : a = b := by
  cases a <;> cases b <;> simp [rank] at h ⊢

namespace Reference

/-- Paths are compared like lists of strings. -/
theorem comparePath_eq (as bs : List String) : comparePath as bs = List.compareLex Ord.compare as bs := by
  induction as generalizing bs with
  | nil => cases bs <;> simp [comparePath, List.compareLex_nil_nil, List.compareLex_nil_cons]
  | cons a as ih =>
    cases bs with
    | nil => simp [comparePath, List.compareLex_cons_nil]
    | cons b bs =>
      rw [comparePath, ih, List.compareLex_cons_cons]

/-- References are compared by their parts, one after the other. -/
theorem compare_eq : compare = compareLex (compareLex (compareOn fun r => r.kind.rank) (compareOn Reference.id))
    (compareOn Reference.path) := by
  funext a b
  rw [compare, comparePath_eq]
  rfl

instance : TransCmp compare := by
  rw [compare_eq]
  infer_instance

instance : LawfulEqCmp compare where
  eq_of_compare {a b} h := by
    obtain ⟨ka, ia, pa⟩ := a
    obtain ⟨kb, ib, pb⟩ := b
    simp only [compare, comparePath_eq, Ordering.then_eq_eq, LawfulEqCmp.compare_eq_iff_eq] at h
    obtain ⟨⟨hk, hi⟩, hp⟩ := h
    rw [ResourceKind.rank_injective hk, hi, hp]

/-- No reference comes before itself. -/
theorem ne_of_lt {a b : Reference} (h : compare a b = .lt) : a ≠ b := by
  rintro rfl
  have he : compare a a = .eq := ReflCmp.compare_self
  rw [he] at h
  nomatch h

end Reference

end CatalogSync
