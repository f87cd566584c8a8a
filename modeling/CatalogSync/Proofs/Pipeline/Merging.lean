import Mathlib.Data.List.Basic
import CatalogSync.Pipeline.Outcome

/-!
# Merged outcomes

What merging makes of outcomes is told by four readings: whether the merged outcome is fatal, which failures and which contents it
has, and when it is a success. Outcomes merged in batches, the batches merged in turn and their contents joined, read the same as
outcomes merged all at once (`Outcome.merge_batches`), so how a collection is split does not matter.
-/

namespace CatalogSync

namespace Outcome

variable {α β : Type}

/-- An outcome is known by its tag, its failures and its content. -/
theorem ext_readings {r s : Outcome α} (hfatal : r.isFatal = s.isFatal) (hsuccess : r.isSuccess = s.isSuccess)
    (hfailures : r.failures = s.failures) (hcontent : r.content? = s.content?) : r = s := by
  cases r <;> cases s <;> simp_all [isFatal, isSuccess, failures, content?]

/-- Changing the content leaves an outcome fatal or not. -/
@[simp] theorem isFatal_map (f : α → β) (r : Outcome α) : (r.map f).isFatal = r.isFatal := by cases r <;> rfl

/-- It leaves it a success or not. -/
@[simp] theorem isSuccess_map (f : α → β) (r : Outcome α) : (r.map f).isSuccess = r.isSuccess := by cases r <;> rfl

/-- It leaves the failures. -/
@[simp] theorem failures_map (f : α → β) (r : Outcome α) : (r.map f).failures = r.failures := by cases r <;> rfl

/-- The content, if there is any, is changed. -/
@[simp] theorem content?_map (f : α → β) (r : Outcome α) : (r.map f).content? = r.content?.map f := by cases r <;> rfl

/-- Attributing failures to a step leaves an outcome fatal or not. -/
@[simp] theorem isFatal_attributedTo (step : String) (r : Outcome α) : (r.attributedTo step).isFatal = r.isFatal := by cases r <;> rfl

/-- It leaves it a success or not. -/
@[simp] theorem isSuccess_attributedTo (step : String) (r : Outcome α) : (r.attributedTo step).isSuccess = r.isSuccess := by
  cases r <;> rfl

/-- It signs each failure that has no step name yet. -/
@[simp] theorem failures_attributedTo (step : String) (r : Outcome α) :
    (r.attributedTo step).failures = r.failures.map (·.attributedTo step) := by cases r <;> rfl

/-- It leaves the content. -/
@[simp] theorem content?_attributedTo (step : String) (r : Outcome α) : (r.attributedTo step).content? = r.content? := by
  cases r <;> rfl

/-- That an outcome says nothing of what went wrong: it is not fatal and has no failure. -/
def Silent (r : Outcome α) : Prop := r.isFatal = false ∧ r.failures = []

instance (r : Outcome α) : Decidable r.Silent := inferInstanceAs (Decidable (r.isFatal = false ∧ r.failures = []))

/-- A merged outcome is fatal exactly if one of the outcomes is. -/
@[simp] theorem isFatal_merge (rs : List (Outcome α)) : (merge rs).isFatal = rs.any isFatal := by
  unfold merge
  cases h : rs.any isFatal with
  | true => rfl
  | false => cases hfs : (rs.flatMap failures).isEmpty <;> simp [hfs, isFatal]

/-- A merged outcome has every failure, in order. -/
@[simp] theorem failures_merge (rs : List (Outcome α)) : (merge rs).failures = rs.flatMap failures := by
  unfold merge
  cases h : rs.any isFatal with
  | true => rfl
  | false =>
    cases hfs : (rs.flatMap failures).isEmpty with
    | true => simp [failures, List.isEmpty_iff.1 hfs]
    | false => simp [hfs, failures]

/-- A merged outcome that is not fatal has every content that is there, in order. -/
theorem content?_merge (rs : List (Outcome α)) :
    (merge rs).content? = if rs.any isFatal then none else some (rs.filterMap content?) := by
  unfold merge
  cases h : rs.any isFatal with
  | true => rfl
  | false => cases hfs : (rs.flatMap failures).isEmpty <;> simp [hfs, content?]

/-- A merged outcome is a success exactly if none of the outcomes is fatal and there is no failure at all. -/
@[simp] theorem isSuccess_merge (rs : List (Outcome α)) :
    (merge rs).isSuccess = (!rs.any isFatal && (rs.flatMap failures).isEmpty) := by
  unfold merge
  cases h : rs.any isFatal with
  | true => rfl
  | false => cases hfs : (rs.flatMap failures).isEmpty <;> simp [hfs, isSuccess]

/-- A merged outcome is a success exactly if every outcome is silent. -/
theorem isSuccess_merge_iff (rs : List (Outcome α)) : (merge rs).isSuccess = true ↔ ∀ r ∈ rs, r.Silent := by
  simp only [isSuccess_merge, Bool.and_eq_true, Bool.not_eq_true', List.any_eq_false, List.isEmpty_iff, List.flatMap_eq_nil_iff,
    Bool.not_eq_true, Silent, forall_and]

/-- A merged outcome is a success with the contents that are there exactly if every outcome is silent. -/
theorem merge_eq_success_iff (rs : List (Outcome α)) (cs : List α) :
    merge rs = success cs ↔ (∀ r ∈ rs, r.Silent) ∧ cs = rs.filterMap content? := by
  rw [← isSuccess_merge_iff]
  have hcontent := content?_merge rs
  cases hm : merge rs with
  | success ds =>
    rw [hm] at hcontent
    have hds : ds = rs.filterMap content? := by
      split at hcontent
      · nomatch hcontent
      · exact Option.some.inj hcontent
    simp [isSuccess, hds, eq_comm]
  | recoverable | fatal => simp [isSuccess]

/-- Outcomes merged in batches, and the batches merged in turn with their contents joined, are the outcomes merged all at once:
how a collection is split into batches changes neither the tag, nor the contents, nor the failures, nor their order. -/
theorem merge_batches (batches : List (List (Outcome α))) :
    (merge (batches.map merge)).map List.flatten = merge batches.flatten := by
  have hfatal : (batches.map merge).any isFatal = batches.flatten.any isFatal := by
    rw [List.any_map, List.any_flatten]
    exact List.any_congr rfl fun batch => isFatal_merge batch
  have hfailures : (batches.map merge).flatMap failures = batches.flatten.flatMap failures := by
    rw [List.flatMap_map, ← List.flatMap_id, List.flatMap_assoc]
    exact congrArg batches.flatMap (funext failures_merge)
  -- without a fatal outcome anywhere, every batch has its contents
  have hcontents (h : batches.flatten.any isFatal = false) :
      (batches.map merge).filterMap content? = batches.map (List.filterMap content?) := by
    rw [List.filterMap_map, List.filterMap_eq_map_iff_forall_eq_some]
    intro batch hbatch
    have hmild : batch.any isFatal = false := by
      rw [List.any_flatten, List.any_eq_false] at h
      exact Bool.eq_false_iff.2 (h batch hbatch)
    simp [content?_merge, hmild]
  apply ext_readings
  · rw [isFatal_map, isFatal_merge, isFatal_merge, hfatal]
  · rw [isSuccess_map, isSuccess_merge, isSuccess_merge, hfatal, hfailures]
  · rw [failures_map, failures_merge, failures_merge, hfailures]
  · rw [content?_map, content?_merge, content?_merge, hfatal]
    cases h : batches.flatten.any isFatal with
    | true => rfl
    | false => simp [hcontents h, List.filterMap_flatten]

end Outcome

end CatalogSync
