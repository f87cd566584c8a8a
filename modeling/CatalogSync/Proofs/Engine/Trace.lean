import CatalogSync.Engine.Interleaving
import CatalogSync.Proofs.Engine.Calculus

/-!
# What tasks did

The moves of a task that was not cut short are a trace of the program that it was started with, and one that was cut short can only
report a crash (`State.Run.recorded`). So what a task reports tells which moves it made: the traces of a program are found by
splitting them at its binds (`Program.Trace.bind`) and following its requests. The calculus `asking` says what a program may ask for
after what it did so far, and so what every trace of it must have in front of a request (`Program.Meets.trace`).
-/

namespace CatalogSync.Engine

/-- A stretch with one more element at its end, split at an element: the split is at the last one or before it. -/
theorem concat_eq_split {β : Type} {l l₁ l₂ : List β} {b₀ b : β} (h : l ++ [b₀] = l₁ ++ b :: l₂) :
    (l₂ = [] ∧ l = l₁ ∧ b₀ = b) ∨ ∃ l₂', l₂ = l₂' ++ [b₀] ∧ l = l₁ ++ b :: l₂' := by
  rcases List.eq_nil_or_concat l₂ with rfl | ⟨l₂', b', rfl⟩
  · obtain ⟨rfl, hb⟩ := List.append_inj' h rfl
    exact Or.inl ⟨rfl, rfl, List.singleton_inj.1 hb⟩
  · rw [List.concat_eq_append, ← List.cons_append, ← List.append_assoc] at h
    obtain ⟨rfl, hb⟩ := List.append_inj' h rfl
    exact Or.inr ⟨l₂', by rw [List.concat_eq_append, List.singleton_inj.1 hb], rfl⟩

namespace Program

variable {α β : Type}

/-! ## Traces of a program -/

/-- The moves that a program is ready for, whatever the world is. -/
inductive Goes : Program α → Move → Program α → Prop where
  | ask {r : Request} {k : r.Answer → Program α} (a : r.Answer) : Goes (.ask r k) (.answered r a) (k a)
  | within {d : Nat} {r : Request} {k : Option r.Answer → Program α} (a : r.Answer) :
    Goes (.within d r k) (.answered r a) (k (some a))
  | expire {d : Nat} {r : Request} {k : Option r.Answer → Program α} : Goes (.within d r k) (.expired r) (k none)
  | listen {url : AccessUrl} {k : Guard → Program α} (heard : Nat) :
    Goes (.hold url .listen k) (.listened url) (.hold url (.attempt heard) k)
  | take {url : AccessUrl} {heard : Nat} {k : Guard → Program α} (g : Guard) : Goes (.hold url (.attempt heard) k) (.took g) (k g)
  | yield {url : AccessUrl} {heard : Nat} {k : Guard → Program α} :
    Goes (.hold url (.attempt heard) k) (.yielded url) (.hold url (.wait heard) k)
  | woken {url : AccessUrl} {heard : Nat} {k : Guard → Program α} :
    Goes (.hold url (.wait heard) k) (.woken url) (.hold url .listen k)

/-- A step of a program is one that the program allows for. -/
theorem Step.goes {w w' : World} {p p' : Program α} {m : Move} (h : Step w p m w' p') : Goes p m p' := by
  cases h with
  | ask => exact .ask _
  | within => exact .within _
  | expire => exact .expire
  | listen => exact .listen _
  | take => exact .take _
  | yield => exact .yield
  | woken => exact .woken

/-- The next move of one program after the other is one of the first, or of the other if the first is done. -/
theorem Goes.of_bind {p : Program α} {f : α → Program β} {m : Move} {q : Program β} (h : Goes (p >>= f) m q) :
    (∃ a, p = .done a ∧ Goes (f a) m q) ∨ ∃ p', Goes p m p' ∧ q = p' >>= f := by
  cases p with
  | done a => exact Or.inl ⟨a, rfl, h⟩
  | ask r k =>
    cases h with
    | ask a => exact Or.inr ⟨_, .ask a, rfl⟩
  | within d r k =>
    cases h with
    | within a => exact Or.inr ⟨_, .within a, rfl⟩
    | expire => exact Or.inr ⟨_, .expire, rfl⟩
  | hold url vigil k =>
    cases h with
    | listen heard => exact Or.inr ⟨.hold url (.attempt heard) k, .listen heard, rfl⟩
    | take g => exact Or.inr ⟨_, .take g, rfl⟩
    | yield => exact Or.inr ⟨.hold url (.wait _) k, .yield, rfl⟩
    | woken => exact Or.inr ⟨.hold url .listen k, .woken, rfl⟩

/-- Moves that lead from a program to what is left of it. -/
inductive Trace : Program α → List Move → Program α → Prop where
  | nil (p : Program α) : Trace p [] p
  | cons {p p' p'' : Program α} {m : Move} {ms : List Move} (h : Goes p m p') (ht : Trace p' ms p'') : Trace p (m :: ms) p''

namespace Trace

theorem concat {p p' p'' : Program α} {ms : List Move} {m : Move} (h : Trace p ms p') (hm : Goes p' m p'') :
    Trace p (ms ++ [m]) p'' := by
  induction h with
  | nil p => exact .cons hm (.nil _)
  | cons h _ ih => exact .cons h (ih hm)

/-- A program that is done makes no move. -/
theorem of_done {a b : α} {ms : List Move} (h : Trace (.done a) ms (.done b)) : ms = [] ∧ a = b := by
  cases h with
  | nil => exact ⟨rfl, rfl⟩
  | cons h _ => nomatch h

/-- A program that asks gets an answer first. -/
theorem of_ask {r : Request} {k : r.Answer → Program α} {ms : List Move} {b : α} (h : Trace (.ask r k) ms (.done b)) :
    ∃ a ms', ms = .answered r a :: ms' ∧ Trace (k a) ms' (.done b) := by
  cases h with
  | cons h ht =>
    cases h with
    | ask a => exact ⟨a, _, rfl, ht⟩

/-- The moves of one program after the other are those of the first and then those of the other. -/
theorem bind {p : Program α} {f : α → Program β} {ms : List Move} {b : β} (h : Trace (p >>= f) ms (.done b)) :
    ∃ ms₁ ms₂ a, ms = ms₁ ++ ms₂ ∧ Trace p ms₁ (.done a) ∧ Trace (f a) ms₂ (.done b) := by
  induction ms generalizing p with
  | nil =>
    cases p with
    | done a => exact ⟨[], [], a, rfl, .nil _, h⟩
    | ask | within | hold => nomatch h
  | cons m ms ih =>
    cases h with
    | cons hm ht =>
      rcases hm.of_bind with ⟨a, rfl, hf⟩ | ⟨p', hp, rfl⟩
      · exact ⟨[], m :: ms, a, rfl, .nil _, .cons hf ht⟩
      · obtain ⟨ms₁, ms₂, a, rfl, h₁, h₂⟩ := ih ht
        exact ⟨m :: ms₁, ms₂, a, rfl, .cons hp h₁, h₂⟩

end Trace

/-- That a program can only end in a given way, however it goes on. -/
def OnlyEnds (p : Program α) (a : α) : Prop := ∀ ms b, Trace p ms (.done b) → b = a

/-- A program that can end in one way only does so after every move. -/
theorem OnlyEnds.of_goes {p p' : Program α} {m : Move} {a : α} (h : p.OnlyEnds a) (hm : Goes p m p') : p'.OnlyEnds a :=
  fun ms b ht => h (m :: ms) b (.cons hm ht)

end Program

/-! ## Asking after moves -/

/-- The request that a move answers or gives up on. -/
def Move.request? : Move → Option Request
  | answered r _ | expired r => some r
  | listened _ | took _ | yielded _ | woken _ => none

/-- A move about a request is one of a program that asks for it. -/
theorem Program.Goes.asks {α : Type} {p p' : Program α} {m : Move} {r : Request} (h : p.Goes m p') (hr : m.request? = some r) :
    p.Asks r := by
  cases h with
  | ask =>
    cases hr
    exact .ask
  | within | expire =>
    cases hr
    exact .within
  | listen | take | yield | woken => nomatch hr

/-- That the answer in a move is one of those that are given. -/
def Move.Given (N : (r : Request) → r.Answer → Prop) : Move → Prop
  | answered r a => N r a
  | _ => True

/-- Asking for what is allowed after the moves so far, where some answers are never given. -/
def asking (A : List Move → Request → Prop) (N : (r : Request) → r.Answer → Prop) : Calculus (List Move) where
  ask ms r K E := A ms r ∧ (∀ a, N r a → K a (ms ++ [.answered r a])) ∧ E (ms ++ [.expired r])
  hold ms _ K := ∀ ms' g, (∀ m ∈ ms', m.request? = none) → K g (ms ++ ms')
  ask_mono := by
    intro ms r K K' E E' hK hE h
    exact ⟨h.1, fun a ha => hK a _ (h.2.1 a ha), hE _ h.2.2⟩
  hold_mono := by
    intro ms url K K' hK h ms' g hm
    exact hK g _ (h ms' g hm)

namespace Program

variable {A : List Move → Request → Prop} {N : (r : Request) → r.Answer → Prop} {Q : α → List Move → Prop} {ms : List Move}

/-- What is left of a program after a move meets the condition too. -/
theorem Meets.goes {p p' : Program α} {m : Move} (h : p.Meets (asking A N) ms Q) (hm : Goes p m p') (hn : m.Given N) :
    p'.Meets (asking A N) (ms ++ [m]) Q ∧ ∀ r, m.request? = some r → A ms r := by
  have hwait : ∀ {url vigil vigil' k m}, m.request? = none → (Program.hold url vigil k).Meets (asking A N) ms Q →
      (Program.hold url vigil' k).Meets (asking A N) (ms ++ [m]) Q := by
    intro url vigil vigil' k m hm h ms' g hms'
    rw [List.append_assoc]
    exact h (m :: ms') g (List.forall_mem_cons.2 ⟨hm, hms'⟩)
  cases hm with
  | ask a => exact ⟨h.2.1 a hn, fun r hr => Option.some.inj hr ▸ h.1⟩
  | within a => exact ⟨h.2.1 a hn, fun r hr => Option.some.inj hr ▸ h.1⟩
  | expire => exact ⟨h.2.2, fun r hr => Option.some.inj hr ▸ h.1⟩
  | take g => exact ⟨h [.took g] g (by simp [Move.request?]), nofun⟩
  | listen | yield | woken => exact ⟨hwait rfl h, nofun⟩

/-- A program that meets the condition asks for what is allowed. -/
theorem Meets.asks {p : Program α} (h : p.Meets (asking A N) ms Q) {r : Request} (ha : p.Asks r) : A ms r := by
  cases ha with
  | ask => exact h.1
  | within => exact h.1

/-- Whatever a trace of a program asks for is allowed after what it did before. -/
theorem Meets.trace {p q : Program α} {ms' ms₁ ms₂ : List Move} {m : Move} {r : Request} (h : p.Meets (asking A N) ms Q)
    (ht : Trace p ms' q) (hn : ∀ m ∈ ms', m.Given N) (hm : ms' = ms₁ ++ m :: ms₂) (hr : m.request? = some r) :
    A (ms ++ ms₁) r := by
  induction ht generalizing ms ms₁ with
  | nil => exact absurd hm (by simp)
  | cons hg _ ih =>
    obtain ⟨hn₀, hn⟩ := List.forall_mem_cons.1 hn
    obtain ⟨hp', ha⟩ := h.goes hg hn₀
    cases ms₁ with
    | nil =>
      cases hm
      rw [List.append_nil]
      exact ha r hr
    | cons m₁ ms₁ =>
      obtain ⟨rfl, htail⟩ := List.cons.inj hm
      have hrest := ih hp' hn htail
      rwa [List.append_assoc] at hrest

/-- Where a trace of a program ends, the condition holds after it. -/
theorem Meets.ends {p : Program α} {ms' : List Move} {a : α} (h : p.Meets (asking A N) ms Q) (ht : Trace p ms' (.done a))
    (hn : ∀ m ∈ ms', m.Given N) : Q a (ms ++ ms') := by
  generalize hq : Program.done a = q at ht
  induction ht generalizing ms with
  | nil =>
    subst hq
    rwa [List.append_nil]
  | cons hg _ ih =>
    obtain ⟨hn₀, hn⟩ := List.forall_mem_cons.1 hn
    have hrest := ih (h.goes hg hn₀).1 hn hq
    rwa [List.append_assoc] at hrest

end Program

/-- A task that was cut short can only report a crash. -/
theorem onlyEnds_unwind (reason : String) (permits : Nat) (gs : List Guard) :
    (unwind reason permits gs).OnlyEnds (.crashed reason) := by
  induction gs with
  | nil =>
    induction permits with
    | zero =>
      intro ms b h
      exact h.of_done.2.symm
    | succ n ih =>
      intro ms b h
      obtain ⟨_, ms', _, h'⟩ := Program.Trace.of_ask h
      exact ih ms' b h'
  | cons g gs ih =>
    intro ms b h
    obtain ⟨_, ms₁, _, h₁⟩ := Program.Trace.of_ask h
    obtain ⟨_, ms₂, _, h₂⟩ := Program.Trace.of_ask h₁
    exact ih ms₂ b h₂

/-! ## Recorded states -/

/-- The moves of a task are what its program did, unless it was cut short; then it can only report a crash. -/
def Task.Recorded (s : Scheduler) (t : Task) : Prop :=
  match t.cut with
  | none => (t.origin.program s).Trace t.moves t.program
  | some reason => t.program.OnlyEnds (.crashed reason)

/-- The moves of a task are a trace of its program, also after one more. -/
theorem Task.Recorded.move {s : Scheduler} {t : Task} {m : Move} {p : Program Report} (h : t.Recorded s)
    (hm : t.program.Goes m p) : (t.move m p).Recorded s := by
  unfold Recorded at h ⊢
  simp only [Task.move]
  split at h
  · exact h.concat hm
  · exact h.of_goes hm

/-- The tasks of a state and those that have ended are recorded, and the latter have reported. -/
structure State.Recorded (s : Scheduler) (x : State) : Prop where
  tasks : ∀ t ∈ x.tasks, t.Recorded s
  ended : ∀ t ∈ x.ended, t.Recorded s ∧ ∃ report, t.program = .done report

/-- Every step adds a task, changes one, or takes one away: what holds of the tasks before it holds of those after it. -/
theorem State.Step.forall_tasks {s : Scheduler} {x y : State} {e : Event} {P : Task → Prop} (hs : State.Step s x e y)
    (h : ∀ t ∈ x.tasks, P t) (start : ∀ id origin, P (.start s id origin))
    (move : ∀ t, P t → ∀ m p, Program.Step x.world t.program m y.world p → P (t.move m p))
    (cut : ∀ t, P t → t.program.Interruptible → ∀ reason,
      P { t with cut := some reason, program := unwind reason t.permits t.guards }) :
    ∀ t ∈ y.tasks, P t := by
  have hput : ∀ {before after : List Task} {t u : Task}, (∀ v ∈ before ++ t :: after, P v) → P u →
      ∀ v ∈ before ++ u :: after, P v := by
    intro before after t u hold hu
    rw [List.forall_mem_append, List.forall_mem_cons] at hold ⊢
    exact ⟨hold.1, hu, hold.2.2⟩
  have hadd : ∀ {ts : List Task} {u : Task}, (∀ v ∈ ts, P v) → P u → ∀ v ∈ ts ++ [u], P v := by
    intro ts u hold hu
    rw [List.forall_mem_append, List.forall_mem_singleton]
    exact ⟨hold, hu⟩
  cases hs with
  | call w ts past op => exact hadd h (start _ _)
  | begin hj => exact hadd h (start _ _)
  | @move w w' before after past t m p hp => exact hput h (move t (h t (List.mem_append_right _ List.mem_cons_self)) m p hp)
  | @finish w before after past t report hr =>
    rw [List.forall_mem_append, List.forall_mem_cons] at h
    exact List.forall_mem_append.2 ⟨h.1, h.2.2⟩
  | @cut w before after past t hi reason => exact hput h (cut t (h t (List.mem_append_right _ List.mem_cons_self)) hi reason)
  | pass w ts past t => exact h

/-- No step loses a move. -/
theorem State.Recorded.step {s : Scheduler} {x y : State} {e : Event} (h : x.Recorded s) (hs : State.Step s x e y) :
    y.Recorded s := by
  refine ⟨hs.forall_tasks h.tasks (fun _ _ => .nil _) (fun _ ht _ _ hp => ht.move hp.goes) fun _ _ _ _ => onlyEnds_unwind _ _ _, ?_⟩
  cases hs with
  | @finish w before after past t report hr =>
    intro v hv
    rcases List.mem_append.1 hv with hv | hv
    · exact h.ended v hv
    · obtain rfl := List.mem_singleton.1 hv
      exact ⟨h.tasks v (List.mem_append_right _ List.mem_cons_self), report, hr⟩
  | call | begin | move | cut | pass => exact h.ended

/-- In a run from a state without tasks, the tasks are recorded. -/
theorem State.Run.recorded {s : Scheduler} {start x : State} {es : List Event} (h : State.Run s start es x)
    (ht : start.tasks = []) (he : start.ended = []) : x.Recorded s :=
  h.invariant ⟨by simp [ht], by simp [he]⟩ fun _ _ _ _ hx hs => hx.step hs

/-- The moves of a task that ended without a crash are a trace of its program to what it reports. -/
theorem State.Recorded.trace {s : Scheduler} {x : State} (h : x.Recorded s) {t : Task} (ht : t ∈ x.ended) {report : Report}
    (hr : t.program = .done report) (hc : ∀ reason, report ≠ .crashed reason) :
    (t.origin.program s).Trace t.moves (.done report) := by
  have hrec := (h.ended t ht).1
  unfold Task.Recorded at hrec
  split at hrec
  · exact hr ▸ hrec
  · rename_i reason _
    rw [hr] at hrec
    exact absurd (hrec [] report (.nil _)) (hc reason)

end CatalogSync.Engine
