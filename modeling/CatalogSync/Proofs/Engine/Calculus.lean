import CatalogSync.Engine.Tick

/-!
# Calculi of programs

A proof about a program keeps track of something: what the program holds, or what it did so far. A `Calculus` says when a request may
be made and what is known of every answer to it, and `Program.Meets` carries that through a whole program, by recursion on it. Timed
work meets a condition when it does under any deadline (`Timed.Meets`), and a chain of steps does when every step leads from one
condition to the next (`Timed.meets_run_snoc`).
-/

namespace CatalogSync.Engine

/-- What a program may ask for, and what is known of it then, given what is kept track of. -/
structure Calculus (σ : Type) where
  /-- That a request may be made, that the first condition holds after every answer, and the other one where a deadline takes
  effect instead. -/
  ask : σ → (r : Request) → (r.Answer → σ → Prop) → (σ → Prop) → Prop
  /-- That the guard of a URL may be waited for, and that the condition holds with every guard. -/
  hold : σ → AccessUrl → (Guard → σ → Prop) → Prop
  ask_mono : ∀ {x : σ} {r : Request} {K K' : r.Answer → σ → Prop} {E E' : σ → Prop}, (∀ a y, K a y → K' a y) →
    (∀ y, E y → E' y) → ask x r K E → ask x r K' E'
  hold_mono : ∀ {x : σ} {url : AccessUrl} {K K' : Guard → σ → Prop}, (∀ g y, K g y → K' g y) → hold x url K → hold x url K'

variable {σ : Type} {C : Calculus σ}

/-- That a program asks for what it may, and that a condition holds where it is done. -/
def Program.Meets (C : Calculus σ) {α : Type} : Program α → σ → (α → σ → Prop) → Prop
  | .done a, x, Q => Q a x
  | .ask r k, x, Q => C.ask x r (fun a y => (k a).Meets C y Q) fun _ => True
  | .within _ r k, x, Q => C.ask x r (fun a y => (k (some a)).Meets C y Q) fun y => (k none).Meets C y Q
  | .hold url _ k, x, Q => C.hold x url fun g y => (k g).Meets C y Q

namespace Program

variable {α β : Type} {x : σ}

theorem Meets.mono {p : Program α} {Q Q' : α → σ → Prop} (h : p.Meets C x Q) (hQ : ∀ a y, Q a y → Q' a y) : p.Meets C x Q' := by
  induction p generalizing x with
  | done a => exact hQ a x h
  | ask r k ih => exact C.ask_mono (fun a _ ha => ih a ha) (fun _ he => he) h
  | within d r k ih => exact C.ask_mono (fun a _ ha => ih (some a) ha) (fun _ he => ih none he) h
  | hold url vigil k ih => exact C.hold_mono (fun g _ hg => ih g hg) h

/-- One program after the other. -/
theorem Meets.bind {p : Program α} {f : α → Program β} {Q : β → σ → Prop} (h : p.Meets C x fun a y => (f a).Meets C y Q) :
    (p >>= f).Meets C x Q := by
  induction p generalizing x with
  | done a => exact h
  | ask r k ih => exact C.ask_mono (fun a _ ha => ih a ha) (fun _ he => he) h
  | within d r k ih => exact C.ask_mono (fun a _ ha => ih (some a) ha) (fun _ he => ih none he) h
  | hold url vigil k ih => exact C.hold_mono (fun g _ hg => ih g hg) h

/-- Two programs meet a calculus in turn if the second does from wherever the first may end. -/
theorem Meets.seq {p : Program α} {f : α → Program β} {Q : α → σ → Prop} {R : β → σ → Prop} (h : p.Meets C x Q)
    (hf : ∀ a y, Q a y → (f a).Meets C y R) : (p >>= f).Meets C x R :=
  (h.mono hf).bind

end Program

namespace Timed

variable {α β γ : Type} {x : σ}

/-- That timed work meets a condition under any deadline: the one where it comes to a value, or the one where it ends early. -/
def Meets (C : Calculus σ) (t : Timed α) (x : σ) (Q : α → σ → Prop) (E : Halt → σ → Prop) : Prop :=
  ∀ deadline, (t.run deadline).Meets C x fun r y => match r with
    | .ok a => Q a y
    | .error h => E h y

variable {Q : α → σ → Prop} {E : Halt → σ → Prop}

theorem Meets.mono {t : Timed α} {Q' : α → σ → Prop} (h : t.Meets C x Q E) (hQ : ∀ a y, Q a y → Q' a y) : t.Meets C x Q' E := by
  intro d
  refine (h d).mono ?_
  rintro (e | a) y hr
  · exact hr
  · exact hQ a y hr

/-- Work that does nothing ends where it starts. -/
theorem meets_pure {a : α} (h : Q a x) : (pure a : Timed α).Meets C x Q E := fun _ => h

/-- Work that ends early at once does so where it starts. -/
theorem meets_halt {e : Halt} (h : E e x) : (halt e : Timed α).Meets C x Q E := fun _ => h

/-- One piece of timed work after the other, if the first does not end early. -/
theorem run_bind (t : Timed α) (f : α → Timed β) (d : Option Nat) :
    (t >>= f).run d = t.run d >>= fun
      | .ok a => (f a).run d
      | .error e => .done (.error e) := by
  refine congrArg _ (funext fun r => ?_)
  cases r <;> rfl

/-- Timed work in turn meets a calculus if the second part does from wherever the first may end with a value. -/
theorem Meets.seq {t : Timed α} {f : α → Timed β} {R : β → σ → Prop} (h : t.Meets C x Q E)
    (hf : ∀ a y, Q a y → (f a).Meets C y R E) : (t >>= f).Meets C x R E := by
  intro d
  rw [run_bind]
  refine (h d).seq ?_
  rintro (e | a) y hr
  · exact hr
  · exact hf a y hr d

/-- A program that no deadline cuts short meets what it meets as a program. -/
theorem meets_lift {p : Program α} (h : p.Meets C x Q) : (lift p).Meets C x Q E := by
  intro d
  have hd : (lift p).run d = p >>= fun a => .done (.ok a) := rfl
  rw [hd]
  exact h.seq fun _ _ hq => hq

/-- A request under a deadline is either answered, or it has expired. -/
theorem meets_request {r : Request} {Q : r.Answer → σ → Prop} (h : C.ask x r Q (E .expired)) : (request r).Meets C x Q E := by
  intro d
  cases d with
  | none => exact C.ask_mono (fun _ _ hq => hq) (fun _ _ => trivial) h
  | some d => exact h

end Timed

/-- That a condition still holds after the sink was told about a failure. -/
def Calculus.Silent (C : Calculus σ) (A : σ → Prop) : Prop :=
  ∀ x, A x → ∀ pipeline f, C.ask x (.report pipeline f) (fun _ y => A y) fun _ => True

/-- A condition that is some silent condition, wherever it holds. -/
theorem Calculus.Silent.of_local {A : σ → Prop} (h : ∀ x, A x → ∃ B, C.Silent B ∧ B x ∧ ∀ y, B y → A y) : C.Silent A := by
  intro x hx pipeline f
  obtain ⟨B, hB, hb, hBA⟩ := h x hx
  exact C.ask_mono (fun _ y hy => hBA y hy) (fun _ _ => trivial) (hB x hb pipeline f)

namespace Timed

variable {α β γ : Type} {x : σ} {E : Halt → σ → Prop}

/-- What the outcome of a step leads to, given the failures recorded before it and the value that a missing content falls back to. -/
def Staged (J : γ → List Failure → σ → Prop) (F : List Failure → σ → Prop) (step : String) (recorded : List Failure)
    (fallback : γ) : Outcome γ → σ → Prop
  | .success c, y => J c recorded y
  | .recoverable c failures, y => J (c.getD fallback) (recorded ++ failures.map (·.attributedTo step)) y
  | .fatal failures, y => F (recorded ++ failures.map (·.attributedTo step)) y

/-- What a run of a chain leads to. -/
def Ended (J : γ → List Failure → σ → Prop) (F : List Failure → σ → Prop) : Option γ × List Failure → σ → Prop
  | (some c, recorded), y => J c recorded y
  | (none, recorded), y => F recorded y

/-- Telling the sink about failures, one after the other. -/
theorem meets_record {A : List Failure → σ → Prop} (pipeline : String) (recorded failures : List Failure)
    (hA : C.Silent (A (recorded ++ failures))) (h : A (recorded ++ failures) x) :
    (Chain.record (Tick.sink pipeline) recorded failures).Meets C x A E := by
  have hf : (failures.forM (Tick.sink pipeline)).Meets C x (fun _ y => A (recorded ++ failures) y) E := by
    rw [List.forM_eq_forM]
    generalize A (recorded ++ failures) = A at hA h
    induction failures generalizing x with
    | nil => exact meets_pure h
    | cons f fs ih =>
      rw [List.forM_cons]
      have hr : (Program.request (.report pipeline f)).Meets C x fun _ y => A y := hA x h pipeline f
      exact (meets_lift hr).seq fun _ _ ha => ih ha
  exact hf.seq fun _ _ ha => meets_pure ha

/-- A chain without steps has recorded no failure. -/
theorem meets_run_nil {I : α → List Failure → σ → Prop} {F : List Failure → σ → Prop} {a : α} (report : Failure → Timed Unit)
    (h : I a [] x) : ((Chain.nil : Chain Timed α α).run report a).Meets C x (Ended I F) E := meets_pure (Q := Ended I F) h

/-- A chain with one more step leads to where the step leads from where the chain leads. -/
theorem meets_run_snoc {I : β → List Failure → σ → Prop} {J : γ → List Failure → σ → Prop} {F : List Failure → σ → Prop}
    {head : Chain Timed α β} {step : Step Timed β γ} {fallback : γ} {pipeline : String} {a : α}
    (hJ : ∀ c failures, C.Silent (J c failures)) (hF : ∀ failures, C.Silent (F failures))
    (hh : (head.run (Tick.sink pipeline) a).Meets C x (Ended I F) E)
    (hs : ∀ b recorded y, I b recorded y → (step.apply b).Meets C y (Staged J F step.name recorded fallback) E) :
    ((head.snoc step (pure fallback)).run (Tick.sink pipeline) a).Meets C x (Ended J F) E := by
  refine hh.seq ?_
  rintro ⟨_ | b, recorded⟩ y hb
  · exact meets_pure (Q := Ended J F) hb
  · refine (hs b recorded y hb).seq ?_
    rintro (c | ⟨_ | c, failures⟩ | failures) y hr
    · exact meets_pure (Q := Ended J F) hr
    · exact (meets_record pipeline recorded _ (hJ fallback _) hr).seq fun _ _ hj => meets_pure (Q := Ended J F) hj
    · exact (meets_record pipeline recorded _ (hJ c _) hr).seq fun _ _ hj => meets_pure (Q := Ended J F) hj
    · exact (meets_record pipeline recorded _ (hF _) hr).seq fun _ _ hf => meets_pure (Q := Ended J F) hf

end Timed

end CatalogSync.Engine
