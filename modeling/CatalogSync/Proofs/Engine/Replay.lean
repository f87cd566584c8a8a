import Mathlib
import CatalogSync.Engine.Interleaving

/-!
# Runs played through

A run is played through by choosing, again and again, which task makes its next move and what the world outside answers.
`State.replay` computes the state that choices lead to, and `State.run_of_replay` says that it is one that a run leads to.
-/

namespace CatalogSync.Engine

/-! ## Cues and choices -/

/-- What comes from outside when a task makes its next move: nothing, an answer, or a deadline that takes effect. -/
inductive Cue where
  | go
  | fetched (a : Except String (Except FetchError Graph))
  | advertised (a : Except FetchError (List AccessUrl))
  | resolved (a : Option String)
  | refused (e : ApplyError)
  | expire

/-- What happens next: tasks and jobs are named by their places. -/
inductive Choice where
  | call (op : Operation)
  | begin (place : Nat)
  | move (place : Nat) (cue : Cue)
  | finish (place : Nat)
  | cut (place : Nat) (reason : String)
  | pass (time : Nat)

/-- The answer to a request on a cue, if it is one for the request. -/
def Request.answer? (w : World) : (r : Request) → Cue → Option (r.Answer × World)
  | .fetch _ _, .fetched a => some (a, w)
  | .advertised _ _, .advertised a => some (a, w)
  | .resolve _, .resolved a => some (a, w)
  | .apply url c, .go => some (.ok (), w.apply url c)
  | .apply _ _, .refused e => some (.error e, w)
  | r, .go => w.perform r
  | _, _ => none

namespace Program

variable {α : Type}

/-- The next move of a program on a cue, if it can make one. -/
def next? (w : World) : Program α → Cue → Option (Move × World × Program α)
  | .ask r k, cue => (r.answer? w cue).map fun x => (.answered r x.1, x.2, k x.1)
  | .within d r k, .expire => if d ≤ w.now then some (.expired r, w, k none) else none
  | .within _ r k, cue => (r.answer? w cue).map fun x => (.answered r x.1, x.2, k (some x.1))
  | .hold url .listen k, .go => some (.listened url, w, .hold url (.attempt w.releases) k)
  | .hold url (.attempt heard) k, .go =>
    match w.tryMark url with
    | (some g, w') => some (.took g, w', k g)
    | (none, w') => some (.yielded url, w', .hold url (.wait heard) k)
  | .hold url (.wait heard) k, .go => if heard < w.releases then some (.woken url, w, .hold url .listen k) else none
  | _, _ => none

/-- Whether a program may be cut short. -/
def interruptible : Program α → Bool
  | .ask r _ => r.interruptible
  | .within _ r _ => r.interruptible
  | .hold _ (.wait _) _ => true
  | _ => false

end Program

namespace State

/-- The step that a choice leads to, if it leads to one. -/
def next? (s : Scheduler) (x : State) : Choice → Option (Event × State)
  | .call op => some (.called x.world.taskCount op,
      ⟨{ x.world with taskCount := x.world.taskCount + 1 }, x.tasks ++ [.start s x.world.taskCount (.operation op)], x.ended⟩)
  | .begin i =>
    match x.world.spawned[i]? with
    | some (id, job) => some (.began id job,
        ⟨{ x.world with spawned := x.world.spawned.take i ++ x.world.spawned.drop (i + 1) },
          x.tasks ++ [.start s id (.job job)], x.ended⟩)
    | none => none
  | .move i cue =>
    match x.tasks[i]? with
    | some t => (t.program.next? x.world cue).map fun y =>
        (.moved t.id y.1, ⟨y.2.1, x.tasks.take i ++ t.move y.1 y.2.2 :: x.tasks.drop (i + 1), x.ended⟩)
    | none => none
  | .finish i =>
    match x.tasks[i]? with
    | some t =>
      match t.program with
      | .done report => some (.ended t.id report,
          ⟨(report.tick?.map (x.world.finish t.id)).getD x.world, x.tasks.take i ++ x.tasks.drop (i + 1), x.ended ++ [t]⟩)
      | _ => none
    | none => none
  | .cut i reason =>
    match x.tasks[i]? with
    | some t =>
      if t.program.interruptible then some (.cut t.id reason,
        ⟨x.world, x.tasks.take i ++ { t with cut := some reason, program := unwind reason t.permits t.guards } ::
          x.tasks.drop (i + 1), x.ended⟩)
      else none
    | none => none
  | .pass time => some (.passed time, ⟨{ x.world with now := x.world.now + time }, x.tasks, x.ended⟩)

/-- The state that choices lead to, one after the other, and what happens on the way. -/
def replay (s : Scheduler) (x : State) : List Choice → Option (List Event × State)
  | [] => some ([], x)
  | c :: cs =>
    match x.next? s c with
    | some (e, y) => (y.replay s cs).map fun z => (e :: z.1, z.2)
    | none => none

end State

/-! ## What they make of a state -/

/-- What a cue makes of a request is an answer to it. -/
theorem Request.answers_of_answer? {w w' : World} {r : Request} {cue : Cue} {a : r.Answer} (h : r.answer? w cue = some (a, w')) :
    Answers w r a w' := by
  unfold answer? at h
  split at h
  · cases h
    exact .fetched _ _ _
  · cases h
    exact .advertised _ _ _
  · cases h
    exact .resolved _ _
  · cases h
    exact .applied _ _
  · cases h
    exact .refused _ _ _
  · exact .world h
  · nomatch h

/-- What a cue makes of a program is a step of it. -/
theorem Program.step_of_next? {α : Type} {w w' : World} {p p' : Program α} {cue : Cue} {m : Move}
    (h : p.next? w cue = some (m, w', p')) : Program.Step w p m w' p' := by
  unfold next? at h
  split at h
  · obtain ⟨⟨a, w''⟩, ha, he⟩ := Option.map_eq_some_iff.1 h
    cases he
    exact .ask (Request.answers_of_answer? ha)
  · split at h
    · rename_i hd
      cases h
      exact .expire hd
    · nomatch h
  · obtain ⟨⟨a, w''⟩, ha, he⟩ := Option.map_eq_some_iff.1 h
    cases he
    exact .within (Request.answers_of_answer? ha)
  · cases h
    exact .listen
  · split at h
    · rename_i ht
      cases h
      exact .take ht
    · rename_i ht
      cases h
      exact .yield ht
  · split at h
    · rename_i hr
      cases h
      exact .woken hr
    · nomatch h
  · nomatch h

/-- What the test says of a program is so. -/
theorem Program.interruptible_of_eq_true {α : Type} {p : Program α} (h : p.interruptible = true) : p.Interruptible := by
  unfold interruptible at h
  split at h
  · exact .request .ask h
  · exact .request .within h
  · exact .wait
  · nomatch h

/-- A list around one of its elements. -/
theorem eq_take_cons_drop {β : Type} {l : List β} {i : Nat} {b : β} (h : l[i]? = some b) :
    l = l.take i ++ b :: l.drop (i + 1) := by
  obtain ⟨hi, rfl⟩ := List.getElem?_eq_some_iff.1 h
  rw [← List.drop_eq_getElem_cons hi, List.take_append_drop]

/-- What a choice makes of a state is a step of the system. -/
theorem State.step_of_next? {s : Scheduler} {x y : State} {c : Choice} {e : Event} (h : x.next? s c = some (e, y)) :
    State.Step s x e y := by
  obtain ⟨w, ts, past⟩ := x
  cases c with
  | call op =>
    cases h
    exact .call w ts past op
  | begin i =>
    simp only [next?] at h
    split at h
    · rename_i id job hj
      cases h
      exact .begin (eq_take_cons_drop hj)
    · nomatch h
  | move i cue =>
    simp only [next?] at h
    split at h
    · rename_i t ht
      have hts := eq_take_cons_drop ht
      generalize ts.take i = before, ts.drop (i + 1) = after at h hts
      obtain ⟨⟨m, w', p⟩, hn, he⟩ := Option.map_eq_some_iff.1 h
      cases he
      subst hts
      exact .move (Program.step_of_next? hn)
    · nomatch h
  | finish i =>
    simp only [next?] at h
    split at h
    · rename_i t ht
      have hts := eq_take_cons_drop ht
      generalize ts.take i = before, ts.drop (i + 1) = after at h hts
      split at h
      · rename_i report hr
        cases h
        subst hts
        exact .finish hr
      · nomatch h
    · nomatch h
  | cut i reason =>
    simp only [next?] at h
    split at h
    · rename_i t ht
      have hts := eq_take_cons_drop ht
      generalize ts.take i = before, ts.drop (i + 1) = after at h hts
      split at h
      · rename_i hi
        cases h
        subst hts
        exact .cut (Program.interruptible_of_eq_true hi) reason
      · nomatch h
    · nomatch h
  | pass time =>
    cases h
    exact .pass w ts past time

/-! ## Runs -/

/-- A run with one more step before it. -/
theorem State.Run.cons {s : Scheduler} {x y z : State} {e : Event} {es : List Event} (h : State.Step s x e y)
    (hr : State.Run s y es z) : State.Run s x (e :: es) z := by
  induction hr with
  | refl => exact .step .refl h
  | step _ h' ih => exact .step ih h'

/-- One run after the other. -/
theorem State.Run.append {s : Scheduler} {x y z : State} {es es' : List Event} (h : State.Run s x es y)
    (h' : State.Run s y es' z) : State.Run s x (es ++ es') z := by
  induction h' with
  | refl => rwa [List.append_nil]
  | step _ hs ih =>
    rw [← List.append_assoc]
    exact ih.step hs

/-- Choices are played through one by one. -/
theorem State.replay_cons {s : Scheduler} {x y : State} {c : Choice} {cs : List Choice} {es : List Event}
    (h : x.replay s (c :: cs) = some (es, y)) :
    ∃ e z es', x.next? s c = some (e, z) ∧ z.replay s cs = some (es', y) ∧ es = e :: es' := by
  simp only [replay] at h
  split at h
  · rename_i e z hn
    obtain ⟨⟨es', y'⟩, hz, he⟩ := Option.map_eq_some_iff.1 h
    cases he
    exact ⟨e, z, es', hn, hz, rfl⟩
  · nomatch h

/-- Choices lead to a state that a run leads to. -/
theorem State.run_of_replay {s : Scheduler} {x y : State} {cs : List Choice} {es : List Event}
    (h : x.replay s cs = some (es, y)) : State.Run s x es y := by
  induction cs generalizing x es with
  | nil =>
    cases h
    exact .refl
  | cons c cs ih =>
    obtain ⟨e, z, es', hn, hz, rfl⟩ := State.replay_cons h
    exact .cons (State.step_of_next? hn) (ih hz)

/-- Choices lead to a run of which everything is so that is computed of their replay. -/
theorem State.exists_run {β : Type} {s : Scheduler} {x : State} {cs : List Choice} {b : β} (f : List Event → State → β)
    (h : (x.replay s cs).map (fun r => f r.1 r.2) = some b) : ∃ es y, State.Run s x es y ∧ f es y = b := by
  obtain ⟨⟨es, y⟩, hr, hf⟩ := Option.map_eq_some_iff.1 h
  exact ⟨es, y, State.run_of_replay hr, hf⟩

/-! ## What can be seen of a run -/

/-- The references that a change set adds and removes. -/
structure Brought where
  added : List Reference
  removed : List Reference
  deriving DecidableEq

/-- What a caller is told of a tick or an unregistration. -/
def Task.told? (t : Task) : Option (Outcome (Option Brought)) :=
  match t.program with
  | .done (.asked (.completed r)) | .done (.unregistered r) =>
    some (r.map (Option.map fun c => ⟨c.toAdd.map Entry.reference, c.toRemove⟩))
  | _ => none

/-- What is easily compared of a state: what callers were told, and, of one URL, the references that the catalog has, and the entry
in the registry. -/
structure Sight where
  told : List (Outcome (Option Brought))
  shown : List Reference
  registered : Bool
  origin : Option AccessUrl
  stored : Option (List Reference)
  lastSynced : Option Nat
  deriving DecidableEq

/-- A state as it is compared. -/
def State.sight (x : State) (url : AccessUrl) : Sight where
  told := x.ended.filterMap Task.told?
  shown := x.world.catalog.references url
  registered := x.world.registry.contains url
  origin := (x.world.registry.get? url).bind Service.origin
  stored := ((x.world.registry.get? url).bind Service.snapshot).map fun x => x.graph.references
  lastSynced := (x.world.registry.get? url).bind Service.lastSynced

/-- Choices, and others after them, lead to two states of which everything is so that is computed of their replays. -/
theorem State.exists_runs {β : Type} {s : Scheduler} {x : State} {cs cs' : List Choice} {b : β} (f : State → State → β)
    (h : ((x.replay s cs).bind fun r => (r.2.replay s cs').map fun r' => f r.2 r'.2) = some b) :
    ∃ es y es' z, State.Run s x es y ∧ State.Run s y es' z ∧ f y z = b := by
  obtain ⟨⟨es, y⟩, hr, h'⟩ := Option.bind_eq_some_iff.1 h
  obtain ⟨⟨es', z⟩, hr', hf⟩ := Option.map_eq_some_iff.1 h'
  exact ⟨es, y, es', z, State.run_of_replay hr, State.run_of_replay hr', hf⟩

end CatalogSync.Engine
