import CatalogSync.Proofs.Engine.Stint

/-!
# Programs alone

A program works alone when nothing but time passes between its moves. The calculus `alone` keeps the log of what such a program did.
Unlike `working` it lets the program wait for guards, which it gets if nobody has them. A program that meets a condition there meets it
wherever it gets (`Program.Meets.works_alone`), and it is never stuck where no URL is marked to begin with
(`Program.Meets.never_stuck`).
-/

namespace CatalogSync.Engine

namespace World.Passes

variable {w w' w'' : World}

theorem refl (w : World) : w.Passes w := ⟨0, rfl⟩

theorem trans (h : w.Passes w') (h' : w'.Passes w'') : w.Passes w'' := by
  obtain ⟨t, rfl⟩ := h
  obtain ⟨t', rfl⟩ := h'
  exact ⟨t + t', by rw [Nat.add_assoc]⟩

/-- Time leaves the registry as it is. -/
theorem registry (h : w.Passes w') : w'.registry = w.registry := by
  obtain ⟨t, rfl⟩ := h
  rfl

/-- It leaves the catalog as it is. -/
theorem catalog (h : w.Passes w') : w'.catalog = w.catalog := by
  obtain ⟨t, rfl⟩ := h
  rfl

/-- It leaves the marks as they are. -/
theorem inFlight (h : w.Passes w') : w'.inFlight = w.inFlight := by
  obtain ⟨t, rfl⟩ := h
  rfl

end World.Passes

/-- Asking alone, where some answers are never given. A guard may be waited for if nobody has it, at least where that is asked for. -/
def alone (N : (r : Request) → r.Answer → Prop) (free : Prop) : Calculus Log where
  ask l r K E := r.prompt = true ∧ ∀ v, l.world.Passes v →
    (∀ a v', N r a → Answers v r a v' → K a (l.add v (.answered r a) v')) ∧ E (l.add v (.expired r) v)
  hold l url K := (free → url ∉ l.world.inFlight) ∧
    ∀ wait v g v', (∀ d ∈ wait, d.move.request? = none) → l.world.Passes v → v.tryMark url = (some g, v') →
      K g ⟨l.deeds ++ wait ++ [⟨v, .took g, v'⟩], v'⟩
  ask_mono := by
    intro l r K K' E E' hK hE h
    exact ⟨h.1, fun v hv => ⟨fun a v' hn ha => hK a _ ((h.2 v hv).1 a v' hn ha), hE _ (h.2 v hv).2⟩⟩
  hold_mono := by
    intro l url K K' hK h
    exact ⟨h.1, fun wait v g v' hw hv hg => hK g _ (h.2 wait v g v' hw hv hg)⟩

namespace Program

variable {α β : Type}

/-- That a program has not found anyone at work where it waits for a guard. -/
def Awake : Program α → Prop
  | .done _ => True
  | .ask _ k => ∀ a, (k a).Awake
  | .within _ _ k => ∀ a, (k a).Awake
  | .hold _ vigil k => (∀ heard, vigil ≠ .wait heard) ∧ ∀ g, (k g).Awake

/-- Who waits in neither of two programs does not in one after the other. -/
theorem Awake.bind {p : Program α} {f : α → Program β} (hp : p.Awake) (hf : ∀ a, (f a).Awake) : (p >>= f).Awake := by
  induction p with
  | done a => exact hf a
  | ask r k ih | within d r k ih => exact fun a => ih a (hp a)
  | hold url vigil k ih => exact ⟨hp.1, fun g => ih g (hp.2 g)⟩

/-- A request is no wait for a guard. -/
theorem awake_request (r : Request) : (request r).Awake := fun _ => trivial

variable {N : (r : Request) → r.Answer → Prop} {free : Prop} {p q : Program α} {l : Log} {Q : α → Log → Prop}

/-- What is asked for is answered, and so much is known then. -/
theorem meets_request_alone {r : Request} {Q : r.Answer → Log → Prop} (hr : r.prompt = true)
    (h : ∀ v a v', l.world.Passes v → N r a → Answers v r a v' → Q a (l.add v (.answered r a) v')) :
    (request r).Meets (Engine.alone N free) l Q :=
  ⟨hr, fun v hv => ⟨fun a v' hn ha => h v a v' hv hn ha, trivial⟩⟩

/-- What is left after a move meets the condition too. -/
theorem Meets.step_alone (h : p.Meets (Engine.alone N free) l Q) {v v' : World} {m : Move} (hv : l.world.Passes v)
    (hm : Step v p m v' q) (hn : m.Given N) :
    q.Meets (Engine.alone N free) (l.add v m v') Q ∧ (free → p.Awake → q.Awake) := by
  -- a move that only waits for the guard leaves the world as it is
  have hwait : ∀ {url vigil vigil' k m}, m.request? = none → (Program.hold url vigil k).Meets (Engine.alone N free) l Q →
      (Program.hold url vigil' k).Meets (Engine.alone N free) (l.add v m v) Q := by
    intro url vigil vigil' k m hm h
    refine ⟨fun hf => hv.inFlight ▸ h.1 hf, fun wait v₁ g v₂ hw hv₁ hg => ?_⟩
    have hk := h.2 (⟨v, m, v⟩ :: wait) v₁ g v₂ (List.forall_mem_cons.2 ⟨hm, hw⟩) (hv.trans hv₁) hg
    simpa only [Log.add, List.append_assoc, List.cons_append, List.nil_append] using hk
  cases hm with
  | ask ha => exact ⟨(h.2 v hv).1 _ _ hn ha, fun _ hp => hp _⟩
  | within ha => exact ⟨(h.2 v hv).1 _ _ hn ha, fun _ hp => hp _⟩
  | expire => exact ⟨(h.2 v hv).2, fun _ hp => hp _⟩
  | listen => exact ⟨hwait rfl h, fun _ hp => ⟨nofun, hp.2⟩⟩
  | woken => exact ⟨hwait rfl h, fun _ hp => ⟨nofun, hp.2⟩⟩
  | take hg =>
    have hk := h.2 [] v _ v' (by simp) hv hg
    rw [List.append_nil] at hk
    exact ⟨hk, fun _ hp => hp.2 _⟩
  | yield hg =>
    obtain ⟨hu, rfl⟩ := World.tryMark_eq_none hg
    exact ⟨hwait rfl h, fun hf _ => absurd (hv.inFlight ▸ hu) (h.1 hf)⟩

/-- A program that meets a condition does so wherever its work gets it. -/
theorem Meets.works_alone {ds₀ ds : List Deed} {w w' : World} (h : p.Meets (Engine.alone N free) ⟨ds₀, w⟩ Q)
    (hw : p.Works World.Passes w ds w' q) (hn : ∀ d ∈ ds, d.move.Given N) :
    q.Meets (Engine.alone N free) ⟨ds₀ ++ ds, w'⟩ Q ∧ (free → p.Awake → q.Awake) := by
  induction hw generalizing ds₀ with
  | nil => exact ⟨by rwa [List.append_nil], fun _ ha => ha⟩
  | @cons p p' q w v v' w' m ds hr hm _ ih =>
    obtain ⟨hm', hn⟩ := List.forall_mem_cons.1 hn
    obtain ⟨hp', ha⟩ := h.step_alone hr hm hm'
    obtain ⟨hq, ha'⟩ := ih hp' hn
    exact ⟨by rwa [List.append_assoc] at hq, fun hf hp => ha' hf (ha hf hp)⟩

/-- A program that waits for nobody is done, or it can make a move. -/
theorem Meets.progress_alone (h : p.Meets (Engine.alone N True) l Q) (ha : p.Awake) {v : World} (hv : l.world.inFlight = v.inFlight) :
    (∃ a, p = .done a) ∨ ∃ m v' p', Step v p m v' p' := by
  cases p with
  | done a => exact Or.inl ⟨a, rfl⟩
  | ask r k =>
    obtain ⟨a, v', hr⟩ := r.exists_answer v h.1
    exact Or.inr ⟨_, _, _, .ask hr⟩
  | within d r k =>
    obtain ⟨a, v', hr⟩ := r.exists_answer v h.1
    exact Or.inr ⟨_, _, _, .within hr⟩
  | hold url vigil k =>
    have hu : v.inFlight.contains url = false := by simpa [← hv] using h.1 trivial
    cases vigil with
    | listen => exact Or.inr ⟨_, _, _, .listen⟩
    | attempt heard => exact Or.inr ⟨_, _, _, .take (by rw [World.tryMark, hu]; rfl)⟩
    | wait heard => exact absurd rfl (ha.1 heard)

/-- Where no URL is marked to begin with, a program that meets a condition is never stuck. -/
theorem Meets.never_stuck {w v : World} {ds : List Deed} (h : p.Meets (Engine.alone N (w.inFlight = [])) ⟨[], w⟩ Q) (hp : p.Awake)
    (hfree : w.inFlight = []) (hw : p.Works World.Passes w ds v q) (hn : ∀ d ∈ ds, d.move.Given N) :
    (∃ a, q = .done a) ∨ ∃ m v' q', Step v q m v' q' := by
  obtain ⟨hq, ha⟩ := h.works_alone hw hn
  rw [eq_true hfree] at hq
  exact hq.progress_alone (ha hfree hp) rfl

end Program

end CatalogSync.Engine
