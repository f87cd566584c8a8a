import CatalogSync.Proofs.Engine.Calculus
import CatalogSync.Proofs.Engine.Custody
import CatalogSync.Proofs.Engine.Replay

/-!
# Programs at work

A program at work makes its moves one after the other, and before each of them others may do to the world what a relation allows
them (`Program.Works`). The calculus `working` keeps a log of what a program did; a program that meets a condition there is never
stuck (`Program.Meets.progress`) and meets it wherever it gets (`Program.Meets.works`). What the moves were tells what became of the
registry and of the catalog (`Program.Works.idle`, `Program.Works.shelf`).
-/

namespace CatalogSync.Engine

/-! ## Deeds -/

/-- A move, with the world before it and after it. -/
structure Deed where
  before : World
  move : Move
  after : World

/-- The deeds of a program that lead to what is left of it. Before each of them others may have changed the world. -/
inductive Program.Works (R : World → World → Prop) {α : Type} : Program α → World → List Deed → World → Program α → Prop where
  | nil (p : Program α) (w : World) : Works R p w [] w p
  | cons {p p' q : Program α} {w v v' w' : World} {m : Move} {ds : List Deed} (hr : R w v) (hm : Program.Step v p m v' p')
    (h : Works R p' v' ds w' q) : Works R p w (⟨v, m, v'⟩ :: ds) w' q

/-! ## Kinds of requests and moves -/

/-- Whether there is an answer to a request in every world. -/
def Request.prompt : Request → Bool
  | .sleep _ | .join _ | .permit _ => false
  | _ => true

/-- Whether whoever makes a request keeps the guards that it has, and gets no others. -/
def Request.steady : Request → Bool
  | .tryMark _ | .unmark _ | .spawn _ => false
  | _ => true

/-- Whether a request calls for the secret store, a client or the catalog, or is one to change the registry. -/
def Request.isCall : Request → Bool
  | .resolve _ | .fetch _ _ | .advertised _ _ | .apply _ _ | .register _ | .remove _ | .swap _ _ _ => true
  | _ => false

namespace Move

/-- Whether a request that calls for someone, or is to change the registry, was answered or given up on. -/
def isCall : Move → Bool
  | answered r _ | expired r => r.isCall
  | _ => false

/-- Whether a move may have changed the registry or the catalog. -/
def writes : Move → Bool
  | answered (.register _) _ | answered (.remove _) _ | answered (.swap _ _ _) (.ok _) | answered (.apply _ _) (.ok _) => true
  | _ => false

/-- Whether a move may have changed the registry, or called for the catalog, whatever came of it. -/
def commits : Move → Bool
  | answered (.apply _ _) _ | expired (.apply _ _) => true
  | m => m.writes

/-- A move that writes is a call. -/
theorem isCall_of_writes {m : Move} (h : m.writes = true) : m.isCall = true := by
  unfold writes at h
  split at h <;> first | rfl | nomatch h

/-- A move that does not commit does not write. -/
theorem writes_of_commits_eq_false {m : Move} (h : m.commits = false) : m.writes = false := by
  unfold commits at h
  split at h
  · nomatch h
  · nomatch h
  · exact h

/-- A move that is not a call does not commit. -/
theorem commits_of_isCall_eq_false {m : Move} (h : m.isCall = false) : m.commits = false := by
  unfold commits
  split
  · nomatch h
  · nomatch h
  · exact Bool.eq_false_iff.2 fun hw => Bool.eq_false_iff.1 h (isCall_of_writes hw)

/-- That a move is about a request with a given property. -/
def About (A : Request → Prop) : Move → Prop
  | answered r _ | expired r => A r
  | _ => False

/-- The changes that a move applied to the shelf of a URL. -/
def applied (url : AccessUrl) : Move → Option ResourceChanges
  | answered (.apply u c) (.ok _) => if u = url then some c else none
  | _ => none

/-- Only answers apply changes. -/
theorem applied_of_not_answered {m : Move} (h : ∀ r a, m ≠ answered r a) (url : AccessUrl) : m.applied url = none := by
  cases m with
  | answered r a => exact absurd rfl (h r a)
  | _ => rfl

/-- An application that succeeded applied its changes at its URL. -/
@[simp] theorem applied_apply (url : AccessUrl) (c : ResourceChanges) :
    (answered (.apply url c) (.ok ())).applied url = some c := if_pos rfl

/-- The swap of a snapshot applies nothing. -/
@[simp] theorem applied_swap (url u : AccessUrl) (old : Option Snapshot) (new : Snapshot)
    (a : Except RegistryError (Option Snapshot)) : (answered (.swap u old new) a).applied url = none := rfl

/-- What commits nothing applies nothing. -/
theorem applied_of_commits_eq_false {m : Move} (h : m.commits = false) (url : AccessUrl) : m.applied url = none := by
  unfold applied
  split
  · nomatch h
  · rfl

/-- An application is a call. -/
theorem isCall_of_applied {m : Move} {url : AccessUrl} {c : ResourceChanges} (h : m.applied url = some c) : m.isCall = true := by
  unfold applied at h
  split at h
  · rfl
  · nomatch h

/-- What is no call applies nothing. -/
theorem applied_of_isCall_eq_false {m : Move} (h : m.isCall = false) (url : AccessUrl) : m.applied url = none := by
  cases ha : m.applied url with
  | none => rfl
  | some c => exact absurd (isCall_of_applied ha) (by simp [h])

end Move

namespace Deed

/-- A deed that changes neither the registry nor the catalog. -/
structure Idle (d : Deed) : Prop where
  registry : d.after.registry = d.before.registry
  catalog : d.after.catalog = d.before.catalog

/-- The calls among deeds, in order. -/
def calls (ds : List Deed) : List Move := (ds.map move).filter Move.isCall

theorem calls_append (ds ds' : List Deed) : calls (ds ++ ds') = calls ds ++ calls ds' := by simp [calls]

/-- A deed that is a call is among the calls. -/
theorem mem_calls {ds : List Deed} {d : Deed} (h : d ∈ ds) (hd : d.move.isCall = true) : d.move ∈ calls ds :=
  List.mem_filter.2 ⟨List.mem_map_of_mem h, hd⟩

end Deed

/-! ## Answers -/

/-- A registration puts the service into the registry. -/
theorem World.perform_register (w : World) (s : Service) :
    w.perform (.register s) = some ((w.registry.put s).1, { w with registry := (w.registry.put s).2 }) := rfl

/-- A removal takes the entry out of the registry and returns it. -/
theorem World.perform_remove (w : World) (url : AccessUrl) :
    w.perform (.remove url) = some (w.registry.get? url, { w with registry := (w.registry.remove url).2 }) := rfl

/-- A request that nobody has to be waited for has an answer in every world. -/
theorem Request.exists_answer (w : World) (r : Request) (h : r.prompt = true) : ∃ a w', Answers w r a w' := by
  cases r with
  | sleep | join | permit => nomatch h
  | fetch url headers => exact ⟨_, _, .fetched url headers (.ok (.ok default))⟩
  | advertised registry headers => exact ⟨_, _, .advertised registry headers (.ok [])⟩
  | apply url c => exact ⟨_, _, .applied url c⟩
  | _ => exact ⟨_, _, .world rfl⟩

/-- A program that asks for what has an answer is not stuck. -/
theorem Program.exists_step {α : Type} (w : World) {r : Request} {k : r.Answer → Program α} (hr : r.prompt = true) :
    ∃ m w' q, Step w (.ask r k) m w' q := by
  obtain ⟨a, w', ha⟩ := r.exists_answer w hr
  exact ⟨_, _, _, .ask ha⟩

variable {R : World → World → Prop} {w w' : World}

/-- What a move that gets an answer does to the world. -/
theorem Program.Step.answers {α : Type} {p p' : Program α} {r : Request} {a : r.Answer}
    (h : Program.Step w p (.answered r a) w' p') : Answers w r a w' := by
  cases h with
  | ask ha | within ha => exact ha

/-- The services listed in a move are those of the registry. -/
theorem Program.Step.services_eq {α : Type} {p p' : Program α} {services : List Service}
    (h : Program.Step w p (.answered .services services) w' p') : services = w.registry.getAll ∧ w' = w := by
  cases h with
  | ask ha | within ha =>
    cases ha with
    | world hw =>
      cases hw
      exact ⟨rfl, rfl⟩

/-- What is taken out in a move is the entry of the URL. -/
theorem Program.Step.entry_eq {α : Type} {p p' : Program α} {url : AccessUrl} {entry : Option Service}
    (h : Program.Step w p (.answered (.remove url) entry) w' p') : entry = w.registry.get? url := by
  cases h with
  | ask ha | within ha =>
    cases ha with
    | world hw =>
      cases hw
      rfl

/-- An answer that is not one to a writing request leaves the registry and the catalog as they were. -/
theorem Answers.idle {r : Request} {a : r.Answer} (h : Answers w r a w') (hw : (Move.answered r a).writes = false) :
    w'.registry = w.registry ∧ w'.catalog = w.catalog := by
  cases h with
  | resolved | fetched | advertised | refused => exact ⟨rfl, rfl⟩
  | applied => nomatch hw
  | world h =>
    cases r with
    | register | remove => nomatch hw
    | swap url expected new =>
      have hswap : w.swap url expected new = (a, w') := Option.some.inj h
      rcases World.swap_cases hswap with ⟨s, _, _, rfl, _⟩ | ⟨_, _, _, rfl⟩
      · nomatch hw
      · exact ⟨rfl, rfl⟩
    | tryMark url =>
      have ht : w.tryMark url = (a, w') := Option.some.inj h
      cases a with
      | none =>
        obtain ⟨_, rfl⟩ := World.tryMark_eq_none ht
        exact ⟨rfl, rfl⟩
      | some g =>
        obtain ⟨_, _, rfl⟩ := World.tryMark_eq_some ht
        exact ⟨rfl, rfl⟩
    | unmark | spawn =>
      cases h
      exact ⟨rfl, rfl⟩
    | fetch | advertised | apply => nomatch h
    | _ =>
      have ha := World.alike_of_perform h rfl
      exact ⟨ha.registry, ha.catalog⟩

/-- The world never changes the catalog by itself. -/
theorem World.catalog_of_perform {r : Request} {a : r.Answer} (h : w.perform r = some (a, w')) : w'.catalog = w.catalog := by
  cases r with
  | register | remove | unmark | spawn =>
    cases h
    rfl
  | swap url expected new =>
    have hswap : w.swap url expected new = (a, w') := Option.some.inj h
    rcases World.swap_cases hswap with ⟨s, _, _, _, rfl⟩ | ⟨_, _, _, rfl⟩ <;> rfl
  | tryMark url =>
    have ht : w.tryMark url = (a, w') := Option.some.inj h
    cases a with
    | none => rw [(World.tryMark_eq_none ht).2]
    | some g =>
      obtain ⟨_, _, rfl⟩ := World.tryMark_eq_some ht
      rfl
  | fetch | advertised | apply => nomatch h
  | _ => exact (World.alike_of_perform h rfl).catalog

/-- What an answer makes of the shelf of a URL. -/
theorem Answers.shelf {r : Request} {a : r.Answer} (h : Answers w r a w') (url : AccessUrl) :
    w'.catalog.entries url = ((Move.answered r a).applied url).toList.foldl Shelf.apply (w.catalog.entries url) := by
  cases h with
  | world h =>
    rw [World.catalog_of_perform h]
    cases r with
    | apply => nomatch h
    | _ => rfl
  | resolved | fetched | advertised | refused => rfl
  | applied u c =>
    by_cases hu : u = url
    · subst hu
      simp [Move.applied, World.apply, Catalog.entries_apply_self]
    · simp [Move.applied, World.apply, hu, Catalog.entries_apply_other _ (Ne.symm hu)]

namespace Program

variable {α β : Type}

/-! ## What a step leaves alone -/

/-- A move that does not write leaves registry and catalog as they were. -/
theorem Step.idle {p p' : Program α} {m : Move} (h : Step w p m w' p') (hw : m.writes = false) :
    w'.registry = w.registry ∧ w'.catalog = w.catalog := by
  rcases h.answers_or_idle with ⟨r, a, rfl, ha⟩ | ⟨_, hsame⟩
  · exact ha.idle hw
  · exact hsame

/-- A move that does not apply changes leaves the catalog as it was. -/
theorem Step.catalog {p p' : Program α} {m : Move} (h : Step w p m w' p') (hm : ∀ url, m.applied url = none) :
    w'.catalog = w.catalog := by
  rcases h.answers_or_idle with ⟨r, a, rfl, ha⟩ | ⟨_, _, hsame⟩
  · cases ha with
    | world ha => exact World.catalog_of_perform ha
    | applied url c => exact absurd (hm url) (by simp)
    | resolved | fetched | advertised | refused => rfl
  · exact hsame

/-- What a move makes of the shelf of a URL. -/
theorem Step.shelf {p p' : Program α} {m : Move} (h : Step w p m w' p') (url : AccessUrl) :
    w'.catalog.entries url = (m.applied url).toList.foldl Shelf.apply (w.catalog.entries url) := by
  rcases h.answers_or_idle with ⟨r, a, rfl, ha⟩ | ⟨hm, _, hsame⟩
  · exact ha.shelf url
  · simp [Move.applied_of_not_answered hm, hsame]

/-- What is left of a program goes on with what follows it. -/
theorem Step.bind {p p' : Program α} {m : Move} (h : Step w p m w' p') (f : α → Program β) :
    Step w (p >>= f) m w' (p' >>= f) := by
  cases h with
  | ask h => exact .ask h
  | within h => exact .within h
  | expire h => exact .expire h
  | listen => exact .listen
  | take h => exact .take h
  | yield h => exact .yield h
  | woken h => exact .woken h

/-- The next move of one program after the other is one of the first, or of the other if the first is done. -/
theorem Step.of_bind {p : Program α} {f : α → Program β} {m : Move} {q : Program β} (h : Step w (p >>= f) m w' q) :
    (∃ a, p = .done a ∧ Step w (f a) m w' q) ∨ ∃ p', Step w p m w' p' ∧ q = p' >>= f := by
  cases p with
  | done a => exact Or.inl ⟨a, rfl, h⟩
  | ask r k =>
    cases h with
    | ask h => exact Or.inr ⟨_, .ask h, rfl⟩
  | within d r k =>
    cases h with
    | within h => exact Or.inr ⟨_, .within h, rfl⟩
    | expire h => exact Or.inr ⟨_, .expire h, rfl⟩
  | hold url vigil k =>
    cases h with
    | listen => exact Or.inr ⟨.hold url (.attempt _) k, .listen, rfl⟩
    | take h => exact Or.inr ⟨_, .take h, rfl⟩
    | yield h => exact Or.inr ⟨.hold url (.wait _) k, .yield h, rfl⟩
    | woken h => exact Or.inr ⟨.hold url .listen k, .woken h, rfl⟩

/-! ## Working through a program -/

namespace Works

variable {p q : Program α} {ds : List Deed}

/-- Deeds that do not write change neither the registry nor the catalog. -/
theorem idle (h : Works R p w ds w' q) : ∀ d ∈ ds, d.move.writes = false → d.Idle := by
  induction h with
  | nil => simp
  | cons hr hm _ ih =>
    intro d hd hw
    rcases List.mem_cons.1 hd with rfl | hd
    · obtain ⟨hregistry, hcatalog⟩ := hm.idle hw
      exact ⟨hregistry, hcatalog⟩
    · exact ih d hd hw

/-- Deeds that apply no changes leave the catalog as it was. -/
theorem catalog (h : Works R p w ds w' q) : ∀ d ∈ ds, (∀ url, d.move.applied url = none) → d.after.catalog = d.before.catalog := by
  induction h with
  | nil => simp
  | cons hr hm _ ih =>
    intro d hd hw
    rcases List.mem_cons.1 hd with rfl | hd
    · exact hm.catalog hw
    · exact ih d hd hw

/-- Where others leave the shelf of a URL alone, it is what the calls made of it. -/
theorem shelf {url : AccessUrl} (h : Works R p w ds w' q)
    (hR : ∀ v v', R v v' → v'.catalog.entries url = v.catalog.entries url) :
    w'.catalog.entries url = ((Deed.calls ds).filterMap (Move.applied url)).foldl Shelf.apply (w.catalog.entries url) := by
  induction h with
  | nil => rfl
  | @cons p p' q w v v' w' m ds hr hm _ ih =>
    have hcalls : (Deed.calls (⟨v, m, v'⟩ :: ds)).filterMap (Move.applied url) =
        (m.applied url).toList ++ (Deed.calls ds).filterMap (Move.applied url) := by
      show ((m :: ds.map Deed.move).filter Move.isCall).filterMap _ = _
      cases hm : m.isCall with
      | true =>
        rw [List.filter_cons_of_pos hm, List.filterMap_cons]
        cases m.applied url <;> rfl
      | false =>
        rw [List.filter_cons_of_neg (by simp [hm]), Move.applied_of_isCall_eq_false hm url]
        rfl
    rw [ih, hm.shelf url, hR _ _ hr, hcalls, List.foldl_append]

/-- One more move after what was done. -/
theorem concat {q' : Program α} {v v' : World} {m : Move} (h : Works R p w ds w' q) (hr : R w' v) (hm : Step v q m v' q') :
    Works R p w (ds ++ [⟨v, m, v'⟩]) v' q' := by
  induction h with
  | nil => exact .cons hr hm (.nil _ _)
  | cons hr' hm' _ ih => exact .cons hr' hm' (ih hr hm)

/-- A program at work goes on with its work. -/
theorem append {q' : Program α} {w'' : World} {ds' : List Deed} (h : Works R p w ds w' q) (h' : Works R q w' ds' w'' q') :
    Works R p w (ds ++ ds') w'' q' := by
  induction h with
  | nil => exact h'
  | cons hr hm _ ih => exact .cons hr hm (ih h')

/-- A program that is done does nothing. -/
theorem of_done {a b : α} (h : Works R (.done a) w ds w' (.done b)) : ds = [] ∧ w' = w ∧ a = b := by
  cases h with
  | nil => exact ⟨rfl, rfl, rfl⟩
  | cons _ hm _ => nomatch hm

/-- A program that asks gets an answer first. -/
theorem of_ask {r : Request} {k : r.Answer → Program α} {b : α} (h : Works R (.ask r k) w ds w' (.done b)) :
    ∃ v a v' ds', ds = ⟨v, .answered r a, v'⟩ :: ds' ∧ R w v ∧ Answers v r a v' ∧ Works R (k a) v' ds' w' (.done b) := by
  cases h with
  | cons hr hm h =>
    cases hm with
    | ask ha => exact ⟨_, _, _, _, rfl, hr, ha, h⟩

/-- The work of one program after the other is that of the first and then that of the other. -/
theorem of_bind {p : Program α} {f : α → Program β} {b : β} (h : Works R (p >>= f) w ds w' (.done b)) :
    ∃ ds₁ ds₂ v a, ds = ds₁ ++ ds₂ ∧ Works R p w ds₁ v (.done a) ∧ Works R (f a) v ds₂ w' (.done b) := by
  induction ds generalizing p w with
  | nil =>
    cases p with
    | done a => exact ⟨[], [], w, a, rfl, .nil _ _, h⟩
    | ask | within | hold => nomatch h
  | cons d ds ih =>
    cases h with
    | @cons _ p' _ _ v v' _ m _ hr hm ht =>
      rcases hm.of_bind with ⟨a, rfl, hf⟩ | ⟨p', hp, rfl⟩
      · exact ⟨[], ⟨v, m, v'⟩ :: ds, w, a, rfl, .nil _ _, .cons hr hf ht⟩
      · obtain ⟨ds₁, ds₂, v₁, a, rfl, h₁, h₂⟩ := ih ht
        exact ⟨⟨v, m, v'⟩ :: ds₁, ds₂, v₁, a, rfl, .cons hr hp h₁, h₂⟩

end Works

end Program

namespace Program

variable {α : Type}

/-! ## Working it out -/

/-- The deeds of a program on cues, each after some time has passed, with what they lead to. -/
def work? (w : World) (p : Program α) : List (Nat × Cue) → Option (List Deed × World × Program α)
  | [] => some ([], w, p)
  | (t, cue) :: rest =>
    let v := { w with now := w.now + t }
    match p.next? v cue with
    | some (m, v', p') => (p'.work? v' rest).map fun x => (⟨v, m, v'⟩ :: x.1, x.2)
    | none => none

/-- Cues lead to where the program works itself, if time may pass in between. -/
theorem works_of_work? {p q : Program α} {ds : List Deed} {cues : List (Nat × Cue)} (h : p.work? w cues = some (ds, w', q))
    (hR : ∀ (v : World) t, R v { v with now := v.now + t }) : Works R p w ds w' q := by
  induction cues generalizing p w ds with
  | nil =>
    cases h
    exact .nil _ _
  | cons c rest ih =>
    obtain ⟨t, cue⟩ := c
    simp only [work?] at h
    split at h
    · rename_i m v' p' hn
      obtain ⟨⟨ds', x⟩, hx, he⟩ := Option.map_eq_some_iff.1 h
      cases he
      exact .cons (hR _ _) (step_of_next? hn) (ih hx)
    · nomatch h

/-- The work of a program on cues begins in its world, if no time passes first. -/
theorem head_of_work? {p q : Program α} {cue : Cue} {cues : List (Nat × Cue)} {ds : List Deed}
    (h : p.work? w ((0, cue) :: cues) = some (ds, w', q)) : ∃ d ds', ds = d :: ds' ∧ d.before = w := by
  simp only [work?] at h
  split at h
  · obtain ⟨y, _, hy⟩ := Option.map_eq_some_iff.1 h
    exact ⟨_, y.1, (congrArg Prod.fst hy).symm, rfl⟩
  · nomatch h

/-- The value that a program is done with, if it is. -/
def value? : Program α → Option α
  | .done a => some a
  | _ => none

/-- A program that has a value is done with it. -/
theorem eq_done_of_value? {p : Program α} {a : α} (h : p.value? = some a) : p = .done a := by
  cases p with
  | done b => exact congrArg _ (Option.some.inj h)
  | ask | within | hold => nomatch h

/-- Cues lead to the work of a program of which everything is so that is computed of it. -/
theorem exists_works {β : Type} {p : Program α} {c : List (Nat × Cue)} {b : β} (f : List Deed → World → Option α → β)
    (h : (p.work? w c).map (fun x => f x.1 x.2.1 x.2.2.value?) = some b)
    (hR : ∀ (v : World) t, R v { v with now := v.now + t }) : ∃ ds w' q, Works R p w ds w' q ∧ f ds w' q.value? = b := by
  obtain ⟨⟨ds, w', q⟩, hx, hf⟩ := Option.map_eq_some_iff.1 h
  exact ⟨ds, w', q, works_of_work? hx hR, hf⟩

end Program

/-! ## Logs -/

/-- What a program did so far, and the world since its last move. -/
structure Log where
  deeds : List Deed
  world : World

/-- The log after one more move. -/
def Log.add (l : Log) (v : World) (m : Move) (v' : World) : Log := ⟨l.deeds ++ [⟨v, m, v'⟩], v'⟩

/-- One more move is one more call, if it is one. -/
theorem Log.calls_add (l : Log) (v : World) (m : Move) (v' : World) :
    Deed.calls (l.add v m v').deeds = Deed.calls l.deeds ++ [m].filter Move.isCall := Deed.calls_append l.deeds [⟨v, m, v'⟩]

/-- Asking for what is allowed and has an answer in every world, with a log of what was done. -/
def working (A : Request → Prop) (R : World → World → Prop) : Calculus Log where
  ask l r K E := A r ∧ r.prompt = true ∧ ∀ v, R l.world v →
    (∀ a v', Answers v r a v' → K a (l.add v (.answered r a) v')) ∧ E (l.add v (.expired r) v)
  hold _ _ _ := False
  ask_mono := by
    intro l r K K' E E' hK hE h
    obtain ⟨ha, hp, hv⟩ := h
    exact ⟨ha, hp, fun v hr => ⟨fun a v' h => hK a _ ((hv v hr).1 a v' h), hE _ (hv v hr).2⟩⟩
  hold_mono := fun _ h => h

namespace Program

variable {α : Type} {A : Request → Prop} {p : Program α} {l : Log} {Q : α → Log → Prop}

/-- A program that meets a condition is done, or it can make a move. -/
theorem Meets.progress (h : p.Meets (working A R) l Q) (v : World) :
    (∃ a, p = .done a) ∨ ∃ m v' p', Step v p m v' p' := by
  cases p with
  | done a => exact Or.inl ⟨a, rfl⟩
  | ask r k =>
    obtain ⟨a, v', ha⟩ := r.exists_answer v h.2.1
    exact Or.inr ⟨_, _, _, .ask ha⟩
  | within d r k =>
    obtain ⟨a, v', ha⟩ := r.exists_answer v h.2.1
    exact Or.inr ⟨_, _, _, .within ha⟩
  | hold => exact False.elim h

/-- What is left after a move meets the condition too. -/
theorem Meets.step (h : p.Meets (working A R) l Q) {v v' : World} {m : Move} {p' : Program α} (hr : R l.world v)
    (hm : Step v p m v' p') : p'.Meets (working A R) (l.add v m v') Q ∧ m.About A := by
  cases hm with
  | ask ha => exact ⟨(h.2.2 v hr).1 _ _ ha, h.1⟩
  | within ha => exact ⟨(h.2.2 v hr).1 _ _ ha, h.1⟩
  | expire _ => exact ⟨(h.2.2 v hr).2, h.1⟩
  | listen | take | yield | woken => exact False.elim h

/-- A program that meets a condition does so wherever its work gets it, and it only makes the moves that it may. -/
theorem Meets.works {w w' : World} {ds₀ ds : List Deed} {q : Program α} (h : p.Meets (working A R) ⟨ds₀, w⟩ Q)
    (hw : Works R p w ds w' q) : q.Meets (working A R) ⟨ds₀ ++ ds, w'⟩ Q ∧ ∀ d ∈ ds, d.move.About A := by
  induction hw generalizing ds₀ with
  | nil => exact ⟨by rwa [List.append_nil], by simp⟩
  | @cons p p' q w v v' w' m ds hr hm _ ih =>
    obtain ⟨hp', ha⟩ := h.step hr hm
    obtain ⟨hq, hds⟩ := ih hp'
    exact ⟨by rwa [List.append_assoc] at hq, List.forall_mem_cons.2 ⟨ha, hds⟩⟩

end Program

end CatalogSync.Engine
