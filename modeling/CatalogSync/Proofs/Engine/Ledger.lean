import CatalogSync.Proofs.Engine.Custody

/-!
# The books of the world

Besides sites and guards a world keeps books: the permits, the tasks that were started, what ended ticks came to, and what the sink was
told. A few kinds of requests change them, and what these are answered is what stands in the books (`Program.Step.booked`).
-/

namespace CatalogSync.Engine

namespace Move

/-- What a move tells the sink: the pipeline and a failure. -/
def report? : Move → Option (String × Failure)
  | answered (.report pipeline f) _ => some (pipeline, f)
  | _ => none

/-- What a move starts a task for. -/
def spawn? : Move → Option Job
  | answered (.spawn job) _ => some job
  | _ => none

/-- What is noted about ended ticks after a move: what was told is noted no more. -/
def untold (notes : List (Nat × Except String TickResult)) : Move → List (Nat × Except String TickResult)
  | answered (.join task) _ => notes.filter fun note => note.1 ≠ task
  | _ => notes

/-- The permits after a move. -/
def permitted (p : Permits) : Move → Permits
  | answered .queue _ => p.ask.2
  | answered .leave _ => p.release
  | _ => p

/-- That an answer says what stands in the books. -/
def Fair (w : World) : Move → Prop
  | answered .queue ticket => ticket = w.permits.ask.1
  | answered (.permit ticket) _ => ticket ∉ w.permits.queue
  | answered (.join task) a => (task, a) ∈ w.finished
  | answered (.spawn _) n => n = w.taskCount
  | _ => True

/-- What a move enters in the books, and what it learns from them. -/
structure Booked (w : World) (m : Move) (w' : World) : Prop where
  fair : m.Fair w
  permits : w'.permits = m.permitted w.permits
  untold : w'.finished = m.untold w.finished
  reports : w'.reports = w.reports ++ m.report?.toList.map (Prod.mk w.now)
  spawned : w'.spawned = w.spawned ++ m.spawn?.toList.map (Prod.mk w.taskCount)
  taskCount : w'.taskCount = w.taskCount + m.spawn?.toList.length

/-- Reports are handed over and not made up. -/
theorem untold_subset (notes : List (Nat × Except String TickResult)) (m : Move) : m.untold notes ⊆ notes := by
  unfold untold
  split
  · exact List.filter_subset_self _
  · exact List.Subset.refl _

end Move

variable {w w' : World}

/-- What a request does to the ledger its move says. -/
theorem World.booked_of_perform {r : Request} {a : r.Answer} (h : w.perform r = some (a, w')) : (Move.answered r a).Booked w w' := by
  have hnone : ∀ {β : Type} (entries : List β), entries = entries ++ [] := fun entries => (List.append_nil entries).symm
  cases r with
  | report pipeline f =>
    cases h
    exact ⟨trivial, rfl, rfl, rfl, hnone _, rfl⟩
  | spawn job =>
    cases h
    exact ⟨rfl, rfl, rfl, hnone _, rfl, rfl⟩
  | queue =>
    cases h
    exact ⟨rfl, rfl, rfl, hnone _, hnone _, rfl⟩
  | permit ticket =>
    simp only [perform] at h
    split at h
    · rename_i hg
      cases h
      have hgranted : ticket ∉ w.permits.queue := by simpa [Permits.granted] using hg
      exact ⟨hgranted, rfl, rfl, hnone _, hnone _, rfl⟩
    · cases h
  | join task =>
    simp only [perform] at h
    split at h
    · rename_i hr
      cases h
      exact ⟨Table.mem_of_lookup hr, rfl, rfl, hnone _, hnone _, rfl⟩
    · cases h
  | sleep time =>
    simp only [perform] at h
    split at h
    · cases h
      exact ⟨trivial, rfl, rfl, hnone _, hnone _, rfl⟩
    · cases h
  | swap url expected new =>
    have hswap : w.swap url expected new = (a, w') := Option.some.inj h
    rcases World.swap_cases hswap with ⟨_, _, _, _, rfl⟩ | ⟨_, _, _, rfl⟩ <;>
      exact ⟨trivial, rfl, rfl, hnone _, hnone _, rfl⟩
  | tryMark url =>
    have ht : w.tryMark url = (a, w') := Option.some.inj h
    cases a with
    | none =>
      rw [(World.tryMark_eq_none ht).2]
      exact ⟨trivial, rfl, rfl, hnone _, hnone _, rfl⟩
    | some g =>
      obtain ⟨_, _, rfl⟩ := World.tryMark_eq_some ht
      exact ⟨trivial, rfl, rfl, hnone _, hnone _, rfl⟩
  | fetch | advertised | apply => cases h
  | _ =>
    cases h
    exact ⟨trivial, rfl, rfl, hnone _, hnone _, rfl⟩

/-- Every move keeps the books. -/
theorem Program.Step.booked {α : Type} {p p' : Program α} {m : Move} (h : Program.Step w p m w' p') : m.Booked w w' := by
  have hnone : ∀ {β : Type} (entries : List β), entries = entries ++ [] := fun entries => (List.append_nil entries).symm
  cases h with
  | ask h | within h =>
    cases h with
    | world h => exact World.booked_of_perform h
    | resolved | fetched | advertised | applied | refused => exact ⟨trivial, rfl, rfl, hnone _, hnone _, rfl⟩
  | expire | listen | woken => exact ⟨trivial, rfl, rfl, hnone _, hnone _, rfl⟩
  | take h =>
    obtain ⟨_, _, rfl⟩ := World.tryMark_eq_some h
    exact ⟨trivial, rfl, rfl, hnone _, hnone _, rfl⟩
  | yield h =>
    rw [(World.tryMark_eq_none h).2]
    exact ⟨trivial, rfl, rfl, hnone _, hnone _, rfl⟩

end CatalogSync.Engine
