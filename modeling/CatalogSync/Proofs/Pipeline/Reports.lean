import CatalogSync.Proofs.Pipeline.Observation

/-!
# What the sink is told

A pipeline reports failures to its sink while it runs, and returns failures at the end. `Pipeline.listened` keeps what it reports
in a log that its steps do not see, and is the pipeline itself apart from that log. However the pipeline is called, the log and the
returned failures are the same (`Pipeline.call_reports`). The sink may be told more than that: a step that is a pipeline with the same
sink reports to it on its own (`Pipeline.call_reports_not_all`).
-/

namespace CatalogSync

/-- What a sink is told: failures under the names of pipelines. -/
abbrev Reports := List (String × Failure)

variable {α β : Type} {m : Type → Type} [Monad m]

/-- A sink whose reports are kept in a log. -/
def kept (sink : String → Failure → m Unit) (name : String) (f : Failure) : StateT Reports m Unit := do
  note (· ++ [(name, f)])
  StateT.lift (sink name f)

/-- A pipeline with a log of what it reports to its sink. What its steps and its supplier do is not logged. -/
def Pipeline.listened (p : Pipeline m α β) : Pipeline (StateT Reports m) α β :=
  ⟨p.name, p.supplier.map StateT.lift, p.chain.lifted, kept p.sink⟩

section

variable [LawfulMonad m]

/-- Keeping a log changes nothing. -/
theorem Pipeline.erases_listened (p : Pipeline m α β) : p.listened.Erases p where
  name := rfl
  supplier := Erases.rel_lift p.supplier
  chain := p.chain.erases_lifted
  sink name f := (Erases.lift (p.sink name f)).note_bind _

theorem ensures_kept (sink : String → Failure → m Unit) (name : String) (f : Failure) (log : Reports) :
    Ensures log (kept sink name f) fun _ log' => log' = log ++ [(name, f)] :=
  (Ensures.note rfl).bind fun _ _ h => .lift fun _ => h

/-- While a chain runs, the log grows by what is recorded. -/
theorem Chain.ensures_run (sink : String → Failure → m Unit) (name : String) (c : Chain m α β) (a : α) (log : Reports) :
    Ensures log (c.lifted.run (kept sink name) a) fun x log' => log' = log ++ x.2.map (Prod.mk name) := by
  induction c with
  | nil => exact .pure (by simp)
  | snoc head step fallback ih =>
    refine ensures_run_snoc (fun log f => ensures_kept sink name f log) ih (fun _ _ h => h) fun b recorded now hnow => ?_
    refine .lift fun r c _ => ?_
    rw [List.foldl_append_eq_append, ← List.flatMap_def, ← List.map_eq_flatMap, hnow, List.map_append, List.append_assoc]

namespace Pipeline

theorem ensures_execute (p : Pipeline m α β) (seed : α) (log : Reports) :
    Ensures log (p.listened.execute seed) fun r log' => log' = log ++ r.failures.map (Prod.mk p.name) :=
  (p.chain.ensures_run p.sink p.name seed log).bind fun x _ h => .pure (by rw [Chain.failures_outcome, h])

/-- What a pipeline reports during a call is what it returns. -/
theorem ensures_call (p : Pipeline m α β) (c : Call α) (log : Reports) :
    Ensures log (p.listened.call c) fun r log' => log' = log ++ r.failures.map (Prod.mk p.name) := by
  rw [call_eq_executeOrSupply]
  unfold executeOrSupply
  cases c.seed? with
  | some a => exact p.ensures_execute a log
  | none =>
    cases h : p.supplier with
    | none =>
      rw [listened, h]
      exact (ensures_kept p.sink p.name p.unseeded log).bind fun _ _ h => .pure h
    | some supply =>
      rw [listened, h]
      exact .lift_bind fun a => p.ensures_execute a log

/-- The failures that a pipeline reports to its sink during a call, all under its name, are those of the returned outcome in the same
order, however it is called, and keeping a log of them changes nothing. A seed is run on whether there is a supplier or not, and then
the supplier is not asked; without a seed its value is run on; with neither no step is applied, and the one failure, which is fatal,
is reported and returned. -/
theorem call_reports (p : Pipeline m α β) (c : Call α) :
    (∀ log : Reports,
      Prod.fst <$> (p.listened.call c).run log = p.call c ∧
      Ensures log (p.listened.call c) fun r log' => log' = log ++ r.failures.map (Prod.mk p.name)) ∧
    (∀ seed, c.seed? = some seed → ∀ supplier, ({ p with supplier := supplier } : Pipeline m α β).call c = p.execute seed) ∧
    (c.seed? = none → ∀ supply, p.supplier = some supply → p.call c = do p.execute (← supply)) ∧
    (c.seed? = none → p.supplier = none → p.unseeded.isFatal = true ∧ p.call c = do
      p.sink p.name p.unseeded
      return .fatal [p.unseeded]) := by
  refine ⟨fun log => ⟨p.erases_listened.call c log, p.ensures_call c log⟩, fun seed hseed supplier => ?_, fun hseed supply h => ?_,
    fun hseed h => ⟨rfl, ?_⟩⟩
  · rw [call_eq_executeOrSupply, hseed]
    rfl
  · rw [call_eq_executeOrSupply, hseed]
    unfold executeOrSupply
    rw [h]
  · rw [call_eq_executeOrSupply, hseed]
    unfold executeOrSupply
    rw [h]

/-- A pipeline that records what its sink is told, over a step that is a pipeline under the same name with the same sink. -/
def echoed : Pipeline (StateM Reports) Nat Nat :=
  let tell (name : String) (f : Failure) : StateM Reports Unit := modify (· ++ [(name, f)])
  let inner := (start "p" tell).step ⟨"warn", fun n => return .recoverable (some n) [.warning "slow"]⟩ (pure 0)
  (start "p" tell).step inner.asStep (pure 0)

/-- The pipeline over a step that shares its sink reports one failure, as it returns one, and the sink is told of it twice. With a
supplier it runs on a seed all the same, without a seed on what is supplied, and with neither it is fatal. -/
theorem call_reports_echoed :
    let supplied := { echoed with supplier := some (pure 5) }
    (Ensures [] (echoed.listened.call (.execute 1)) fun r log => log = [] ++ r.failures.map (Prod.mk "p")) ∧
    ((echoed.listened.call (.execute 1)).run []).run [] =
      ((.recoverable (some 1) [(Failure.warning "slow").withStep "warn"], [("p", (Failure.warning "slow").withStep "warn")]),
        [("p", (Failure.warning "slow").withStep "warn"), ("p", (Failure.warning "slow").withStep "warn")]) ∧
    supplied.call (.executeOrSupply (some 1)) = echoed.execute 1 ∧
    supplied.call .run = (do supplied.execute (← pure 5)) ∧
    echoed.call .run = (do echoed.sink "p" echoed.unseeded; return .fatal [echoed.unseeded]) :=
  ⟨((call_reports echoed (.execute 1)).1 []).2, rfl, (call_reports echoed (.executeOrSupply (some 1))).2.1 1 rfl _,
    (call_reports _ .run).2.2.1 rfl _ rfl, ((call_reports echoed .run).2.2.2 rfl rfl).2⟩

/-- What the sink of a pipeline is told during a call need not be what is returned, even if only reports under the name of the
pipeline count: a step may report to the sink too. -/
theorem call_reports_not_all :
    ¬(∀ (p : Pipeline (StateM Reports) Nat Nat), p.sink = (fun name f => modify (· ++ [(name, f)])) → ∀ seed : Nat,
        ((p.call (.execute seed)).run []).2 = ((p.call (.execute seed)).run []).1.failures.map (Prod.mk p.name)) ∧
    ¬(∀ (p : Pipeline (StateM Reports) Nat Nat), p.sink = (fun name f => modify (· ++ [(name, f)])) → ∀ seed : Nat,
        ((p.call (.execute seed)).run []).2.filter (fun x => x.1 = p.name) =
          ((p.call (.execute seed)).run []).1.failures.map (Prod.mk p.name)) := by
  constructor
  · intro h
    exact absurd (h echoed rfl 1) (by decide)
  · intro h
    exact absurd (h echoed rfl 1) (by decide)

end Pipeline

end

end CatalogSync
