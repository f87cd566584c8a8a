import CatalogSync.Proofs.Pipeline.Merging
import CatalogSync.Proofs.Pipeline.Observation

/-!
# What a success tells

The tag of an outcome is found from the failures that were collected and from whether something was fatal, and not from the tags of
what it is made of. So a success means that nothing was said (`success_iff_silent`): none of the merged outcomes, or of the outcomes
of the steps that ran, is fatal or has a failure. An outcome that the work goes on after and that has no failure is silent too, and is
then lost without a word (`success_not_iff_succeeded`). `Pipeline.overheard` keeps what the steps return.
-/

namespace CatalogSync

namespace Outcome

variable {α : Type}

/-- That an outcome which the work goes on after says why: it has a failure. -/
def Voiced (r : Outcome α) : Prop := r.isRecoverable = true → r.failures ≠ []

instance (r : Outcome α) : Decidable r.Voiced := inferInstanceAs (Decidable (r.isRecoverable = true → r.failures ≠ []))

theorem Voiced.silent_iff {r : Outcome α} (h : r.Voiced) : r.Silent ↔ r.isSuccess = true := by
  cases r with
  | success a => simp [Silent, isFatal, failures, isSuccess]
  | recoverable a fs => simpa [Silent, isFatal, failures, isSuccess] using h rfl
  | fatal fs => simp [Silent, isFatal, isSuccess]

/-- Of voiced outcomes none is silent but the successes. -/
theorem forall_silent_iff {rs : List (Outcome α)} (h : ∀ r ∈ rs, r.Voiced) :
    (∀ r ∈ rs, r.Silent) ↔ ∀ r ∈ rs, r.isSuccess = true :=
  forall₂_congr fun r hr => (h r hr).silent_iff

/-- Voiced outcomes are merged to a success exactly if they are the successes with its contents, so that none is lost. -/
theorem merge_eq_success_iff_map {rs : List (Outcome α)} (h : ∀ r ∈ rs, r.Voiced) (cs : List α) :
    merge rs = success cs ↔ rs = cs.map success := by
  rw [merge_eq_success_iff, forall_silent_iff h]
  constructor
  · rintro ⟨hsuccess, rfl⟩
    induction rs with
    | nil => rfl
    | cons r rs ih =>
      obtain ⟨hr, hrs⟩ := List.forall_mem_cons.1 hsuccess
      have ih := ih (List.forall_mem_cons.1 h).2 hrs
      cases r with
      | success a => rw [List.filterMap_cons_some (show (success a).content? = some a from rfl), List.map_cons, ← ih]
      | recoverable | fatal => nomatch hr
  · rintro rfl
    simp [isSuccess, content?, Function.comp_def]

end Outcome

/-- What steps return, without the contents. -/
abbrev Returns := List (Outcome Unit)

variable {α β : Type} {m : Type → Type} [Monad m]

/-- A step that notes what it returns. -/
def Step.overheard (s : Step m α β) : Step (StateT Returns m) α β where
  name := s.name
  apply a := do
    let r ← StateT.lift (s.apply a)
    note (· ++ [r.map fun _ => ()])
    return r

/-- A pipeline with a list of what those steps returned that ran. -/
def Pipeline.overheard (p : Pipeline m α β) : Pipeline (StateT Returns m) α β :=
  ⟨p.name, p.supplier.map StateT.lift, p.chain.mapSteps Step.overheard StateT.lift, fun name f => StateT.lift (p.sink name f)⟩

/-- That a run has no output exactly if a step was fatal, and has recorded nothing exactly if no step returned a failure. -/
structure Chain.Reflects (x : Option β × List Failure) (returned : Returns) : Prop where
  halted : x.1 = none ↔ ∃ r ∈ returned, r.isFatal = true
  recorded : x.2 = [] ↔ ∀ r ∈ returned, r.failures = []

/-- A run that reflects what the steps returned is a success exactly if each of these is silent. -/
theorem Chain.Reflects.isSuccess_outcome_iff {x : Option β × List Failure} {returned : Returns} (h : Reflects x returned) :
    (outcome x).isSuccess = true ↔ ∀ r ∈ returned, r.Silent := by
  have hsuccess : (outcome x).isSuccess = true ↔ x.1 ≠ none ∧ x.2 = [] := by
    rcases x with ⟨_ | b, _ | ⟨f, fs⟩⟩ <;> simp [outcome, Outcome.isSuccess]
  rw [hsuccess, ne_eq, h.halted, h.recorded]
  simp only [not_exists, not_and, Bool.not_eq_true, Outcome.Silent, forall_and]

section

variable [LawfulMonad m]

theorem Step.erases_overheard (s : Step m α β) (a : α) : Erases (s.overheard.apply a) (s.apply a) := by
  have h := (Erases.lift (s.apply a)).bind fun r => (Erases.pure r).note_bind (· ++ [r.map fun _ => ()])
  rwa [bind_pure] at h

/-- Noting what the steps return changes nothing. -/
theorem Pipeline.erases_overheard (p : Pipeline m α β) : p.overheard.Erases p where
  name := rfl
  supplier := Erases.rel_lift p.supplier
  chain := Chain.erases_mapSteps (fun _ => rfl) Step.erases_overheard p.chain
  sink name f := .lift (p.sink name f)

theorem Step.ensures_overheard (s : Step m α β) (a : α) (returned : Returns) :
    Ensures returned (s.overheard.apply a) fun r returned' => returned' = returned ++ [r.map fun _ => ()] :=
  .lift_bind fun _ => (Ensures.note rfl).bind fun _ _ h => .pure h

/-- What a run reflects when one more step has run. -/
theorem Chain.Reflects.concat {γ : Type} {b : β} {recorded : List Failure} {returned : Returns}
    (h : Reflects (some b, recorded) returned) (step : String) (r : Outcome γ) (c : Option γ)
    (hc : c = none ↔ r.isFatal = true) :
    Reflects (c, recorded ++ (r.attributedTo step).failures) (returned ++ [r.map fun _ => ()]) where
  halted := by
    have hnone : ¬∃ r ∈ returned, r.isFatal = true := fun hfatal => nomatch h.halted.2 hfatal
    simp only [List.mem_append, List.mem_singleton, or_and_right, exists_or, exists_eq_left, Outcome.isFatal_map, hnone, false_or, hc]
  recorded := by
    have hfailures : (r.attributedTo step).failures = [] ↔ r.failures = [] := by
      cases r <;> simp [Outcome.attributedTo, Outcome.failures]
    simp only [List.append_eq_nil_iff, h.recorded, hfailures, List.forall_mem_append, List.forall_mem_singleton,
      Outcome.failures_map]

/-- A run reflects what its steps return. -/
theorem Chain.ensures_reflects (report : Failure → m Unit) (c : Chain m α β) (a : α) :
    Ensures [] ((c.mapSteps Step.overheard StateT.lift).run (fun f => StateT.lift (report f)) a) Reflects := by
  induction c with
  | nil => exact .pure ⟨by simp, by simp⟩
  | snoc head step fallback ih =>
    refine ensures_run_snoc (fun t f => .lift fun _ => rfl) ih (fun _ _ h => ⟨by simpa using h.halted, h.recorded⟩) ?_
    intro b recorded returned h
    refine (step.ensures_overheard b returned).imp ?_
    rintro r _ rfl c hc
    rw [List.foldl_fixed]
    exact h.concat step.name r c hc

/-- A run on a seed is a success exactly if every step that ran was silent. -/
theorem Pipeline.ensures_silent (p : Pipeline m α β) (seed : α) :
    Ensures [] (p.overheard.execute seed) fun r returned => r.isSuccess = true ↔ ∀ s ∈ returned, s.Silent :=
  (p.chain.ensures_reflects (p.sink p.name) seed).bind fun _ _ h => .pure h.isSuccess_outcome_iff

/-- Success means that nothing was said. Outcomes are merged to a success exactly if each of them is silent, with the contents that
are there, and a pipeline executes to a success exactly if every step that ran was silent. Where every outcome that the work goes on
after says why, that is to say that everything succeeded, and no element is lost from a merged success. -/
theorem success_iff_silent :
    (∀ rs : List (Outcome α),
      ((Outcome.merge rs).isSuccess = true ↔ ∀ r ∈ rs, r.Silent) ∧
      (∀ cs, Outcome.merge rs = .success cs ↔ (∀ r ∈ rs, r.Silent) ∧ cs = rs.filterMap Outcome.content?) ∧
      ((∀ r ∈ rs, r.Voiced) →
        ((Outcome.merge rs).isSuccess = true ↔ ∀ r ∈ rs, r.isSuccess = true) ∧
        ∀ cs, Outcome.merge rs = .success cs ↔ rs = cs.map .success)) ∧
    ∀ (p : Pipeline m α β) (seed : α),
      (∀ returned, Prod.fst <$> (p.overheard.execute seed).run returned = p.execute seed) ∧
      Ensures [] (p.overheard.execute seed) fun r returned =>
        (r.isSuccess = true ↔ ∀ s ∈ returned, s.Silent) ∧
        ((∀ s ∈ returned, s.Voiced) → (r.isSuccess = true ↔ ∀ s ∈ returned, s.isSuccess = true)) := by
  refine ⟨fun rs => ⟨Outcome.isSuccess_merge_iff rs, Outcome.merge_eq_success_iff rs, fun h => ⟨?_, ?_⟩⟩, fun p seed => ⟨?_, ?_⟩⟩
  · rw [Outcome.isSuccess_merge_iff, Outcome.forall_silent_iff h]
  · exact Outcome.merge_eq_success_iff_map h
  · exact p.erases_overheard.execute seed
  · exact (p.ensures_silent seed).imp fun r returned h => ⟨h, fun hvoiced => h.trans (Outcome.forall_silent_iff hvoiced)⟩

end

/-- A pipeline of two steps, of which the first goes on without content and gives these failures. -/
def loses (failures : List Failure) : Pipeline Id Nat Nat :=
  ((Pipeline.start "p" fun _ _ => ()).step ⟨"lose", fun _ => .recoverable none failures⟩ 7).step ⟨"double", fun n => .success (2 * n)⟩ 0

/-- Where what was lost is told, the merged outcome is no success, and neither is that of the pipeline. -/
theorem success_iff_silent_of_lost :
    let rs : List (Outcome Nat) := [.success 1, .recoverable none [.warning "lost"], .success 3]
    let run := ((loses [.warning "lost"]).overheard.execute 3).run []
    (∀ r ∈ rs, r.Voiced) ∧ ((Outcome.merge rs).isSuccess = true ↔ ∀ r ∈ rs, r.isSuccess = true) ∧
    Outcome.merge rs = .recoverable (some [1, 3]) [.warning "lost"] ∧
    (∀ s ∈ run.2, s.Voiced) ∧ (run.1.isSuccess = true ↔ ∀ s ∈ run.2, s.isSuccess = true) ∧
    run = (.recoverable (some 14) [(Failure.warning "lost").withStep "lose"], [.recoverable none [.warning "lost"], .success ()]) := by
  intro rs run
  have hvoiced : ∀ r ∈ rs, r.Voiced := by decide
  have hmerge := ((success_iff_silent (m := Id) (β := Nat)).1 rs).2.2 hvoiced
  have hreturned : ∀ s ∈ run.2, s.Voiced := by decide
  have hrun := SatisfiesM_Id_eq.1 (success_iff_silent.2 (loses [.warning "lost"]) 3).2
  exact ⟨hvoiced, hmerge.1, rfl, hreturned, hrun.2 hreturned, rfl⟩

/-- Success does not mean that everything succeeded: an element without content and without a failure is lost from the contents of a
merged success, and a step may go on without content and without a failure. -/
theorem success_not_iff_succeeded :
    ¬(∀ rs : List (Outcome Nat), (Outcome.merge rs).isSuccess = true ↔ ∀ r ∈ rs, r.isSuccess = true) ∧
    ¬(∀ (p : Pipeline Id Nat Nat) (seed : Nat), ((p.overheard.execute seed).run []).1.isSuccess = true ↔
        ∀ r ∈ ((p.overheard.execute seed).run []).2, r.isSuccess = true) ∧
    Outcome.merge [.success 1, .recoverable none []] = .success [1] := by
  refine ⟨fun h => ?_, fun h => ?_, rfl⟩
  · exact absurd (h [.success 1, .recoverable none []]) (by decide)
  · exact absurd (h (loses []) 3) (by decide)

end CatalogSync
