import CatalogSync.Proofs.Engine.Bootstrap
import CatalogSync.Proofs.Engine.Joins

/-!
# The tick at once

Whoever registers a service and asks for a tick of it at once makes two moves, and between them anything may happen. If the tick is
skipped then, someone else holds the guard of the URL (`State.Run.inaugurates`): a tick that has yet to look for the entry, or found the
new one, and then the registration is attended to; or else an unregistration, or a tick that looked before there was an entry, and then
nobody works on the new registration until the next round (`State.Run.inaugurates_not_after_unregistration`).
-/

namespace CatalogSync.Engine

/-! ## How a task stands to a URL -/

/-- What a task is to a URL that it marks. -/
inductive Stance where
  | idle
  /-- A tick that has yet to look for the entry. -/
  | awaiting
  /-- A tick that found the entry. -/
  | found (entry : Service)
  /-- A tick that found no entry. -/
  | missed
  | unregistering

/-- The stance of a task after a move. -/
def Move.stance (url : AccessUrl) (before : Stance) : Move → Stance
  | .answered (.tryMark _) (some g) => if g.url = url then .awaiting else before
  | .took g => if g.url = url then .unregistering else before
  | .answered (.service u) (some entry) => if u = url then .found entry else before
  | .answered (.service u) none => if u = url then .missed else before
  | .answered (.remove u) _ => if u = url then .unregistering else before
  | _ => before

/-- The stance of a new task: a job is handed the mark for its tick. -/
def Origin.stance (url : AccessUrl) : Origin → Stance
  | .job (.tick g) => if g.url = url then .awaiting else .idle
  | _ => .idle

/-- The stance of a task after what it did so far. -/
def Task.stance (url : AccessUrl) (t : Task) : Stance := t.moves.foldl (Move.stance url) (t.origin.stance url)

section

variable {url : AccessUrl} {m : Move} {held : List Guard} {before : Stance} {entry : Service} {t : Task}

theorem Task.stance_move (t : Task) (m : Move) (p : Program Report) : (t.move m p).stance url = m.stance url (t.stance url) := by
  simp [stance, move]

/-- A guard that is held after a move was held before, or the move is one that got it. -/
theorem Move.mem_of_mem_guards {g : Guard} (h : g ∈ m.guards held) :
    g ∈ held ∨ (∃ u, m = .answered (.tryMark u) (some g)) ∨ m = .took g := by
  unfold guards at h
  split at h
  · rcases List.mem_cons.1 h with rfl | h
    · exact Or.inr (Or.inl ⟨_, rfl⟩)
    · exact Or.inl h
  · rcases List.mem_cons.1 h with rfl | h
    · exact Or.inr (Or.inr rfl)
    · exact Or.inl h
  · exact Or.inl (List.mem_of_mem_erase h)
  · exact Or.inl (List.mem_of_mem_erase h)
  · exact Or.inl h

/-- A move never makes a task idle. -/
theorem Move.stance_ne_idle (h : before ≠ .idle) : m.stance url before ≠ .idle := by
  unfold stance
  split <;> first | exact h | (split <;> first | exact h | nofun)

/-- A task found an entry if it does so now, or if it did before and neither got the guard since nor took the entry out. -/
theorem Move.of_stance_eq_found (h : m.stance url before = .found entry) :
    m = .answered (.service url) (some entry) ∨
    (before = .found entry ∧ (∀ a, m ≠ .answered (.remove url) a) ∧
      ∀ g, g.url = url → (∀ u, m ≠ .answered (.tryMark u) (some g)) ∧ m ≠ .took g) := by
  unfold stance at h
  split at h
  · rename_i g
    split at h
    · nomatch h
    · rename_i hu
      refine Or.inr ⟨h, nofun, fun g' hg' => ⟨?_, nofun⟩⟩
      rintro u ⟨⟩
      exact hu hg'
  · rename_i g
    split at h
    · nomatch h
    · rename_i hu
      refine Or.inr ⟨h, nofun, fun g' hg' => ⟨nofun, ?_⟩⟩
      rintro ⟨⟩
      exact hu hg'
  · rename_i u found
    split at h
    · rename_i hu
      rw [hu, Stance.found.inj h]
      exact Or.inl rfl
    · exact Or.inr ⟨h, nofun, fun _ _ => ⟨nofun, nofun⟩⟩
  · split at h
    · nomatch h
    · exact Or.inr ⟨h, nofun, fun _ _ => ⟨nofun, nofun⟩⟩
  · rename_i u a
    split at h
    · nomatch h
    · rename_i hu
      refine Or.inr ⟨h, ?_, fun _ _ => ⟨nofun, nofun⟩⟩
      rintro a' ⟨⟩
      exact hu rfl
  · -- any other move leaves the stance as it was
    rename_i htry htook _ _ hremove
    exact Or.inr ⟨h, fun a => hremove url a, fun g _ => ⟨fun u => htry u g, htook g⟩⟩

/-- Whoever holds the guard of a URL is not idle. -/
theorem Task.Holds.stance_ne_idle (h : t.Holds url) : t.stance url ≠ .idle := by
  have horigin : (∃ g ∈ t.origin.guards, g.url = url) → t.origin.stance url ≠ .idle := by
    rintro ⟨g, hg, hu⟩
    unfold Origin.guards at hg
    split at hg
    · rename_i ho
      obtain rfl := List.mem_singleton.1 hg
      simp [Origin.stance, ho, hu]
    · exact absurd hg List.not_mem_nil
  have hmoves : ∀ (ms : List Move) (held : List Guard) (before : Stance), ((∃ g ∈ held, g.url = url) → before ≠ .idle) →
      (∃ g ∈ ms.foldl Move.guards held, g.url = url) → ms.foldl (Move.stance url) before ≠ .idle := by
    intro ms
    induction ms with
    | nil => exact fun _ _ h => h
    | cons m ms ih =>
      intro held before hheld
      refine ih _ _ ?_
      rintro ⟨g, hg, hu⟩
      rcases Move.mem_of_mem_guards hg with hg | ⟨u, rfl⟩ | rfl
      · exact Move.stance_ne_idle (hheld ⟨g, hg, hu⟩)
      · simp [Move.stance, hu]
      · simp [Move.stance, hu]
  exact hmoves t.moves _ _ horigin h

/-- A new task has found nothing yet. -/
theorem Origin.stance_ne_found (origin : Origin) : origin.stance url ≠ .found entry := by
  unfold stance
  split
  · split <;> nofun
  · nofun

/-- Whoever found the entry and holds the guard after a move has just found it, or did before and held the guard. -/
theorem Task.of_found_move {p : Program Report} (hf : (t.move m p).stance url = .found entry) (hh : (t.move m p).Holds url) :
    m = .answered (.service url) (some entry) ∨
    (t.stance url = .found entry ∧ t.Holds url ∧ ∀ a, m ≠ .answered (.remove url) a) := by
  rw [Task.stance_move] at hf
  rcases Move.of_stance_eq_found hf with hm | ⟨hbefore, hremove, hfresh⟩
  · exact Or.inl hm
  · obtain ⟨g, hg, hu⟩ := hh
    rw [Task.guards_move] at hg
    rcases Move.mem_of_mem_guards hg with hg | ⟨u, hm⟩ | hm
    · exact Or.inr ⟨hbefore, ⟨g, hg, hu⟩, hremove⟩
    · exact absurd hm ((hfresh g hu).1 u)
    · exact absurd hm (hfresh g hu).2

end

section

variable {s : Scheduler} {start x y z : State} {e : Event} {es : List Event} {url : AccessUrl} {entry service : Service} {t : Task}

/-! ## URLs that are found marked -/

/-- Whoever found the entry and holds the guard after a step has just found it, or did before; and then the entry is still there if it
was, because nobody takes it out without the guard. -/
theorem State.Step.found (hs : State.Step s x e y) (hk : x.Kept lawless) (ht : t ∈ y.tasks) (hh : t.Holds url)
    (hf : t.stance url = .found entry) :
    (e = .moved t.id (.answered (.service url) (some entry)) ∧ x.world.registry.get? url = some entry) ∨
    ((∃ t' ∈ x.tasks, t'.id = t.id ∧ t'.Holds url ∧ t'.stance url = .found entry) ∧
      (x.world.registry.get? url ≠ none → y.world.registry.get? url ≠ none)) := by
  cases hs with
  | call w ts past op =>
    rcases List.mem_append.1 ht with ht | ht
    · exact Or.inr ⟨⟨t, ht, rfl, hh, hf⟩, id⟩
    · obtain rfl := List.mem_singleton.1 ht
      nomatch hf
  | @begin w ts past before after id job hj =>
    rcases List.mem_append.1 ht with ht | ht
    · exact Or.inr ⟨⟨t, ht, rfl, hh, hf⟩, fun h => h⟩
    · obtain rfl := List.mem_singleton.1 ht
      exact absurd hf (Origin.stance_ne_found _)
  | @move w w' before after past u m p hp =>
    -- whoever else holds the guard is spared, and so is the entry
    have hothers : t ∈ before ∨ t ∈ after → (∃ t' ∈ before ++ u :: after, t'.id = t.id ∧ t'.Holds url ∧ t'.stance url = .found entry) ∧
        (w.registry.get? url ≠ none → w'.registry.get? url ≠ none) := by
      intro hbeside
      refine ⟨⟨t, Task.mem_insert (List.mem_append.2 hbeside) u, rfl, hh, hf⟩, fun hsome => ?_⟩
      obtain ⟨g, hg, rfl⟩ := hh
      have hguards : g ∈ before.flatMap Task.guards ++ after.flatMap Task.guards := by
        rw [← List.flatMap_append]
        exact List.mem_flatMap.2 ⟨t, List.mem_append.2 hbeside, hg⟩
      have hspares : w.Spares g.url w' :=
        .of_grows (hk.grows_of_move hp (lawless_allows (.moved u.id m)) g (List.mem_append_left _ hguards))
      obtain ⟨current, hcurrent⟩ := Option.ne_none_iff_exists'.1 hsome
      rw [hspares.entry current hcurrent]
      exact Option.some_ne_none current
    rcases List.mem_append.1 ht with ht | ht
    · exact Or.inr (hothers (Or.inl ht))
    · rcases List.mem_cons.1 ht with rfl | ht
      · rcases Task.of_found_move hf hh with rfl | ⟨hfound, hholds, hremove⟩
        · refine Or.inl ⟨rfl, ?_⟩
          cases hp.answers with
          | world ha => exact congrArg Prod.fst (Option.some.inj ha)
        · refine Or.inr ⟨⟨u, List.mem_append_right _ List.mem_cons_self, rfl, hholds, hfound⟩, fun hsome => ?_⟩
          obtain ⟨current, hcurrent⟩ := Option.ne_none_iff_exists'.1 hsome
          rcases hp.entry hk.sane.keyed hcurrent hremove with ⟨_, _, _, _, hentry⟩ | ⟨hentry, _⟩
          · exact ne_of_eq_of_ne hentry (Option.some_ne_none _)
          · exact ne_of_eq_of_ne hentry (Option.some_ne_none _)
      · exact Or.inr (hothers (Or.inr ht))
  | @finish w before after past u report hr =>
    have hregistry : ((report.tick?.map (w.finish u.id)).getD w).registry = w.registry := by cases report.tick? <;> rfl
    refine Or.inr ⟨⟨t, Task.mem_insert ht u, rfl, hh, hf⟩, ?_⟩
    show _ → ((report.tick?.map (w.finish u.id)).getD w).registry.get? url ≠ none
    rw [hregistry]
    exact id
  | @cut w before after past u hi reason =>
    rcases List.mem_append.1 ht with ht | ht
    · exact Or.inr ⟨⟨t, List.mem_append_left _ ht, rfl, hh, hf⟩, id⟩
    · rcases List.mem_cons.1 ht with rfl | ht
      · exact Or.inr ⟨⟨u, List.mem_append_right _ List.mem_cons_self, rfl, hh, hf⟩, id⟩
      · exact Or.inr ⟨⟨t, List.mem_append_right _ (List.mem_cons_of_mem u ht), rfl, hh, hf⟩, id⟩
  | pass w ts past n => exact Or.inr ⟨⟨t, ht, rfl, hh, hf⟩, id⟩

/-- A state in which whoever found the entry of a URL, and still holds the guard, has not lost it. -/
structure State.Settled (url : AccessUrl) (x : State) : Prop where
  kept : x.Kept lawless
  found : ∀ t ∈ x.tasks, t.Holds url → ∀ entry, t.stance url = .found entry → x.world.registry.get? url ≠ none

/-- No step unsettles a URL. -/
theorem State.Settled.step (h : x.Settled url) (hs : State.Step s x e y) : y.Settled url := by
  refine ⟨h.kept.step hs (lawless_allows e), fun t ht hh entry hf => ?_⟩
  rcases hs.found h.kept ht hh hf with ⟨rfl, hentry⟩ | ⟨⟨t', ht', _, hh', hf'⟩, hentry⟩
  · rw [hs.entry h.kept.sane.keyed hentry nofun rfl]
    exact Option.some_ne_none entry
  · exact hentry (h.found t' ht' hh' entry hf')

/-- A URL is settled in every run from a quiet state. -/
theorem State.Run.settled (h : State.Run s start es x) (hq : start.Quiet) : x.Settled url := by
  refine h.invariant ⟨hq.kept fun _ => trivial, ?_⟩ fun _ _ _ _ hx hs => hx.step hs
  simp [hq.tasks]

/-! ## From a registration on -/

/-- That an entry is a service as it was registered, but for what ticks stored. -/
def Continues (service entry : Service) : Prop :=
  ∃ snapshot lastSynced, entry = { service with snapshot := snapshot, lastSynced := lastSynced }

/-- What is so once a service was registered where there was no entry: unless the entry was taken out, it is the registered one, and
whoever found an entry and holds the guard found it since. -/
structure State.Inaugurated (service : Service) (es : List Event) (x : State) : Prop where
  settled : x.Settled service.url
  entry : (∀ id a, .moved id (.answered (.remove service.url) a) ∉ es) →
    ∃ entry, x.world.registry.get? service.url = some entry ∧ Continues service entry
  found : ∀ t ∈ x.tasks, t.Holds service.url → ∀ entry, t.stance service.url = .found entry →
    .moved t.id (.answered (.service service.url) (some entry)) ∈ es ∧
    ((∀ id a, .moved id (.answered (.remove service.url) a) ∉ es) → Continues service entry)

/-- A step makes nothing else of an entry that continues a service, unless it takes the entry out. -/
theorem Continues.step (h : Continues service entry) (hs : State.Step s x e y) (hx : x.world.registry.Keyed)
    (hentry : x.world.registry.get? url = some entry) (hremove : ∀ id a, e ≠ .moved id (.answered (.remove url) a)) :
    ∃ entry', y.world.registry.get? url = some entry' ∧ Continues service entry' := by
  cases hs with
  | @move w w' before after past t m p hp =>
    rcases hp.entry hx hentry fun a hm => hremove t.id a (hm ▸ rfl) with ⟨_, _, _, _, hentry'⟩ | ⟨hentry', _⟩
    · obtain ⟨_, _, rfl⟩ := h
      exact ⟨_, hentry', _, _, rfl⟩
    · exact ⟨entry, hentry', h⟩
  | @finish w before after past t report hr => exact ⟨entry, by cases report.tick? <;> exact hentry, h⟩
  | call | begin | cut | pass => exact ⟨entry, hentry, h⟩

/-- What is so right after the registration: nobody who holds the guard found an entry, because there was none. -/
theorem State.Step.inaugurated {id : Nat} (hs : State.Step s x (.moved id (.answered (.register service) true)) y)
    (hx : x.Settled service.url) : y.Inaugurated service [] := by
  obtain ⟨hnone, hsome⟩ := hs.registered
  refine ⟨hx.step hs, fun _ => ⟨service, hsome, _, _, rfl⟩, fun t ht hh entry hf => ?_⟩
  rcases hs.found hx.kept ht hh hf with ⟨he, _⟩ | ⟨⟨t', ht', _, hh', hf'⟩, _⟩
  · nomatch he
  · exact absurd hnone (hx.found t' ht' hh' entry hf')

/-- Each step goes on with the inauguration of a service. -/
theorem State.Inaugurated.step (h : x.Inaugurated service es) (hs : State.Step s x e y) : y.Inaugurated service (es ++ [e]) := by
  have hkeyed : x.world.registry.Keyed := h.settled.kept.sane.keyed
  have hearlier : (∀ id a, .moved id (.answered (.remove service.url) a) ∉ es ++ [e]) →
      ∀ id a, .moved id (.answered (.remove service.url) a) ∉ es :=
    fun hremove id a hm => hremove id a (List.mem_append_left _ hm)
  refine ⟨h.settled.step hs, fun hremove => ?_, fun t ht hh entry hf => ?_⟩
  · obtain ⟨entry, hentry, hc⟩ := h.entry (hearlier hremove)
    refine hc.step hs hkeyed hentry ?_
    rintro id a rfl
    exact hremove id a (List.mem_append_right _ (List.mem_singleton_self _))
  · rcases hs.found h.settled.kept ht hh hf with ⟨rfl, hentry⟩ | ⟨⟨t', ht', hid, hh', hf'⟩, _⟩
    · refine ⟨List.mem_append_right _ (List.mem_singleton_self _), fun hremove => ?_⟩
      obtain ⟨entry', hentry', hc⟩ := h.entry (hearlier hremove)
      obtain rfl := Option.some.inj (hentry.symm.trans hentry')
      exact hc
    · obtain ⟨hlook, hc⟩ := h.found t' ht' hh' entry hf'
      exact ⟨List.mem_append_left _ (hid ▸ hlook), fun hremove => hc (hearlier hremove)⟩

/-- So does every run. -/
theorem State.Run.inaugurated (h : State.Run s x es y) (hx : x.Inaugurated service []) : y.Inaugurated service es := by
  induction h with
  | refl => exact hx
  | step _ hs ih => exact ih.step hs

/-! ## Who attends to a service -/

/-- A tick is on its way that works on a registration: it is queued, it has yet to look for the entry, or it found the entry since, which
is the registered one unless that was taken out. -/
inductive State.Attended (service : Service) (es : List Event) (x : State) : Prop where
  | queued {id : Nat} {g : Guard} (h : (id, .tick g) ∈ x.world.spawned) (hg : g.url = service.url) : Attended service es x
  | awaiting {t : Task} (ht : t ∈ x.tasks) (hh : t.Holds service.url) (hs : t.stance service.url = .awaiting) : Attended service es x
  | found {t : Task} {entry : Service} (ht : t ∈ x.tasks) (hh : t.Holds service.url) (hs : t.stance service.url = .found entry)
    (hlook : .moved t.id (.answered (.service service.url) (some entry)) ∈ es)
    (hentry : (∀ id a, .moved id (.answered (.remove service.url) a) ∉ es) → Continues service entry) : Attended service es x

/-- The guard of a URL is held by an unregistration, or by a tick that found no entry. -/
inductive State.Withheld (url : AccessUrl) (x : State) : Prop where
  | unregistering {t : Task} (ht : t ∈ x.tasks) (hh : t.Holds url) (hs : t.stance url = .unregistering) : Withheld url x
  | missed {t : Task} (ht : t ∈ x.tasks) (hh : t.Holds url) (hs : t.stance url = .missed) : Withheld url x

/-- A URL that is marked after a registration is marked by a tick that works on it, or by someone who does not. -/
theorem State.Inaugurated.attended (h : x.Inaugurated service es) (hm : service.url ∈ x.world.inFlight) :
    x.Attended service es ∨ x.Withheld service.url := by
  have hexclusive := State.exclusive_of_kept h.settled.kept
  rw [hexclusive.marks] at hm
  obtain ⟨g, hg, hu⟩ := List.mem_map.1 hm
  rcases List.mem_append.1 (hexclusive.owners.symm.subset hg) with hg | hg
  · obtain ⟨t, ht, hg⟩ := List.mem_flatMap.1 hg
    have hh : t.Holds service.url := ⟨g, hg, hu⟩
    cases hs : t.stance service.url with
    | idle => exact absurd hs hh.stance_ne_idle
    | awaiting => exact Or.inl (.awaiting ht hh hs)
    | found entry =>
      obtain ⟨hlook, hentry⟩ := h.found t ht hh entry hs
      exact Or.inl (.found ht hh hs hlook hentry)
    | missed => exact Or.inr (.missed ht hh hs)
    | unregistering => exact Or.inr (.unregistering ht hh hs)
  · obtain ⟨⟨id, job⟩, hjob, hg⟩ := List.mem_flatMap.1 hg
    cases job with
    | tick g' =>
      obtain rfl := List.mem_singleton.1 hg
      exact Or.inl (.queued hjob hu)
    | round => nomatch hg

/-! ## Runs -/

/-- A task has made the moves of its stint. -/
theorem State.Stint.mem_moves {α : Type} {k : α → Program Report} {p q : Program α} {ds : List Deed} (h : State.Stint s k x p ds z t q) :
    ∀ d ∈ ds, d.move ∈ t.moves := by
  induction h with
  | start => simp
  | own _ hm ih =>
    refine List.forall_mem_append.2 ⟨fun d hd => List.mem_append_left _ (ih d hd), ?_⟩
    exact List.forall_mem_singleton.2 (List.mem_append_right _ (List.mem_singleton_self _))
  | other _ _ _ ih => exact ih

/-- Whoever finds a URL marked finds it in flight. -/
theorem State.Step.marked {id : Nat} (hs : State.Step s x (.moved id (.answered (.tryMark url) none)) y) : url ∈ x.world.inFlight := by
  generalize he : Event.moved id (.answered (.tryMark url) none) = e at hs
  cases hs with
  | move hp =>
    cases he
    cases hp.answers with
    | world ha => exact (World.tryMark_eq_none (Option.some.inj ha)).1
  | call | begin | finish | cut | pass => nomatch he

/-- The guard that someone gets for a URL is one of the URL. -/
theorem State.Step.guard_url {id : Nat} {g : Guard} (hs : State.Step s x (.moved id (.answered (.tryMark url) (some g))) y) :
    g.url = url := by
  generalize he : Event.moved id (.answered (.tryMark url) (some g)) = e at hs
  cases hs with
  | move hp =>
    cases he
    cases hp.answers with
    | world ha => rw [(World.tryMark_eq_some (Option.some.inj ha)).2.1]
  | call | begin | finish | cut | pass => nomatch he

/-- A spell that asks and comes to its end came through the state in which it was answered. -/
theorem State.Spell.of_asking {α : Type} {k : α → Program Report} {u : Task} {r : Request} {f : r.Answer → Program α} {ds : List Deed}
    {b : α} (h : State.Spell s k x u (.ask r f) es ds z t (.done b)) :
    ∃ es₁ es₂ ds' y₀ y v a, es = es₁ ++ .moved u.id (.answered r a) :: es₂ ∧ ds = ⟨y₀.world, .answered r a, y.world⟩ :: ds' ∧
      State.Run s x es₁ y₀ ∧ State.Step s y₀ (.moved u.id (.answered r a)) y ∧ v.id = u.id ∧
      State.Spell s k y v (f a) es₂ ds' z t (.done b) := by
  cases ds with
  | nil =>
    obtain ⟨_, _, hnil, _⟩ := Program.Trace.of_ask h.trace
    nomatch hnil
  | cons d ds =>
    obtain ⟨es₁, es₂, y₀, y, v, a, rfl, rfl, hbefore, hs, _, hrest⟩ := h.of_ask
    exact ⟨es₁, es₂, ds, y₀, y, v, a, rfl, rfl, hbefore.run, hs, hrest.id.symm.trans h.id, hrest⟩

/-- How a registration with a tick at once ends if the service was new, given what happened between the registration and the attempt to
mark the URL, and the state at that attempt: either it started a tick, and the outcome is what that came to, or it skipped the tick
because someone else held the guard. -/
inductive State.Stint.AtOnce (service : Service) (es : List Event) (y : State) (ds : List Deed) (z : State) : TickOutcome → Prop where
  | completed {g : Guard} {n : Nat} {a : Except String TickResult} {r : TickResult} (hg : g.url = service.url)
    (hm : ds.map Deed.move = [.answered (.register service) true, .answered (.tryMark service.url) (some g),
      .answered (.spawn (.tick g)) n, .answered (.join n) a]) (ha : z.Reported n a) (hr : ∀ r', a = .ok r' → r = r') :
    AtOnce service es y ds z (.completed r)
  | skipped (hm : ds.map Deed.move = [.answered (.register service) true, .answered (.tryMark service.url) none])
    (hy : y.Attended service es ∨ y.Withheld service.url) : AtOnce service es y ds z .skipped

/-- A registration with a tick at once that finds no entry makes the service the entry, and then comes to mark the URL. Whatever happens
in between, the entry stays unless someone takes it out. If the URL is free then, the outcome is what the tick comes to that it starts.
If the URL is marked, the tick is skipped; and then either another tick is on its way that works on the new registration, or the guard is
held by an unregistration or by a tick that found no entry. -/
theorem State.Run.inaugurates {es₀ : List Event} (h : State.Run s start es₀ x) (hq : start.Quiet) (hf : start.world.finished = [])
    {k : Option TickOutcome → Program Report} {u : Task} {ds : List Deed} {outcome : TickOutcome}
    (hst : State.Spell s k x u (Scheduler.register service) es ds z t (.done (some outcome))) :
    ∃ es₁ es₂ es₃ ds' y₀ y₁ y₂ y₃ a,
      es = es₁ ++ .moved u.id (.answered (.register service) true) :: (es₂ ++ .moved u.id (.answered (.tryMark service.url) a) :: es₃) ∧
      ds = ⟨y₀.world, .answered (.register service) true, y₁.world⟩ :: ⟨y₂.world, .answered (.tryMark service.url) a, y₃.world⟩ :: ds' ∧
      State.Run s x es₁ y₀ ∧ State.Step s y₀ (.moved u.id (.answered (.register service) true)) y₁ ∧
      State.Run s y₁ es₂ y₂ ∧ State.Step s y₂ (.moved u.id (.answered (.tryMark service.url) a)) y₃ ∧ State.Run s y₃ es₃ z ∧
      y₀.world.registry.get? service.url = none ∧ y₁.world.registry.get? service.url = some service ∧
      ((∀ id a, .moved id (.answered (.remove service.url) a) ∉ es₂) →
        ∃ entry, y₂.world.registry.get? service.url = some entry ∧ Continues service entry) ∧
      State.Stint.AtOnce service es₂ y₂ ds z outcome := by
  obtain ⟨es₁, es', ds₁, y₀, y₁, v, isNew, rfl, rfl, h₀, hregister, hv, hst₁⟩ := hst.of_asking
  cases isNew with
  | false => nomatch (Program.Trace.of_done hst₁.trace).2
  | true =>
    obtain ⟨hnone, hsome⟩ := hregister.registered
    have hy₁ : y₁.Inaugurated service [] := hregister.inaugurated ((h.append h₀).settled hq)
    obtain ⟨es₂, es₃, ds₂, y₂, y₃, _, a, rfl, rfl, h₁, hmark, _, hst₂⟩ := hst₁.of_asking
    rw [hv] at hmark
    have hy₂ : y₂.Inaugurated service es₂ := h₁.inaugurated hy₁
    refine ⟨es₁, es₂, es₃, ds₂, y₀, y₁, y₂, y₃, a, by rw [hv], rfl, h₀, hregister, h₁, hmark, hst₂.run, hnone, hsome, hy₂.entry, ?_⟩
    -- the URL is marked, and whoever marked it attends to the service or withholds it; or the tick is started and joined
    cases a with
    | none =>
      obtain ⟨hds₂, houtcome⟩ := Program.Trace.of_done hst₂.trace
      obtain rfl := Option.some.inj houtcome
      exact .skipped (by rw [List.map_cons, List.map_cons, hds₂]) (hy₂.attended hmark.marked)
    | some g =>
      obtain ⟨_, _, ds₃, _, _, _, n, _, rfl, _, _, _, hst₃⟩ := hst₂.of_asking
      obtain ⟨_, _, ds₄, _, _, _, r, _, rfl, _, _, _, hst₄⟩ := hst₃.of_asking
      have hjoined : .answered (.join n) r ∈ t.moves := hst₃.stint.mem_moves _ List.mem_cons_self
      have hreported : z.Reported n r := ((h.append hst.run).joined hq.tasks hq.ended hf).joined t hst.mem.1 n r hjoined
      cases r with
      | ok r =>
        obtain ⟨hds₄, houtcome⟩ := Program.Trace.of_done hst₄.trace
        obtain rfl := Option.some.inj houtcome
        exact .completed hmark.guard_url (by simp only [List.map_cons, hds₄]) hreported fun _ he => Except.ok.inj he
      | error reason =>
        obtain ⟨hds₄, houtcome⟩ := Program.Trace.of_done hst₄.trace
        obtain rfl := Option.some.inj houtcome
        exact .completed hmark.guard_url (by simp only [List.map_cons, hds₄]) hreported nofun

end

/-- A tick that was called in between marks the URL first, and has yet to look for the entry when the tick at once is skipped. -/
theorem State.Run.inaugurates_between :
    let url : AccessUrl := ⟨"http://host"⟩
    let s : Scheduler := ⟨⟨false, 50⟩, false, [], 1000⟩
    let start : State := ⟨World.initial (.ofNat 1), [], []⟩
    let service : Service := .fresh url
    ∃ es₀ x k u es ds z t, State.Run s start es₀ x ∧ start.Quiet ∧ start.world.finished = [] ∧
      State.Spell s k x u (Scheduler.register service) es ds z t (.done (some .skipped)) ∧ z.Attended service [] ∧
      ∃ es₁ es₂ es₃ y₂ y₃ a,
        es = es₁ ++ .moved u.id (.answered (.register service) true) :: (es₂ ++ .moved u.id (.answered (.tryMark url) a) :: es₃) ∧
        State.Step s y₂ (.moved u.id (.answered (.tryMark url) a)) y₃ ∧ State.Run s y₃ es₃ z ∧
        State.Stint.AtOnce service es₂ y₂ ds z .skipped := by
  intro url s start service
  let k : Option TickOutcome → Program Report := fun outcome => .done (.scheduled outcome)
  let w₁ : World := { World.initial (.ofNat 1) with taskCount := 1 }
  let w₂ : World := { w₁ with registry := (w₁.registry.put service).2 }
  let w₃ : World := { w₂ with taskCount := 2 }
  let w₄ : World := (w₃.tryMark url).2
  let t₁ : Task := .start s 0 (.operation (.schedule service))
  let t₂ : Task := .start s 1 (.operation (.synchronize url))
  have hrun : State.Run s start [.called 0 (.schedule service)] ⟨w₁, [] ++ t₁ :: [], []⟩ := State.Run.refl.step (.call _ [] [] _)
  have hstart : State.Spell s k ⟨w₁, [] ++ t₁ :: [], []⟩ t₁ (Scheduler.register service) [] [] _ t₁ (Scheduler.register service) :=
    .start (List.mem_singleton_self _) rfl
  have hregister : Program.Step w₁ (Scheduler.register service) (.answered (.register service) true) w₂ _ := .ask (.world rfl)
  have hregistered := hstart.own hregister
  have hcalled := hregistered.other (.call w₂ _ [] (.synchronize url)) nofun
  have hmark : Program.Step w₃ t₂.program (.answered (.tryMark url) (some ⟨0, url⟩)) w₄ _ := .ask (.world rfl)
  have hmarked : State.Spell s k _ t₁ _ _ _ ⟨w₄, [] ++ _ :: [_], []⟩ _ _ :=
    hcalled.other (.move hmark : State.Step s ⟨w₃, [_] ++ t₂ :: [], []⟩ _ _) (show some 1 ≠ some 0 by decide)
  have hskip : w₄.perform (.tryMark url) = some (none, w₄) := rfl
  have hskipped := hmarked.own (.ask (.world hskip))
  have hquiet : start.Quiet := State.quiet_initial _
  obtain ⟨es₁, es₂, es₃, _, _, _, y₂, y₃, a, hes, _, _, _, _, hs, h₃, _, _, _, h⟩ := hrun.inaugurates hquiet rfl hskipped
  refine ⟨_, _, k, _, _, _, _, _, hrun, hquiet, rfl, hskipped, ?_, es₁, es₂, es₃, y₂, y₃, a, hes, hs, h₃, h⟩
  refine .awaiting (List.mem_cons_of_mem _ (List.mem_singleton_self _)) ⟨⟨0, url⟩, List.mem_singleton_self _, rfl⟩ ?_
  show (if url = url then Stance.awaiting else .idle) = .awaiting
  exact if_pos rfl

/-- A service is registered, ticked and unregistered, and registered again with a tick at once while the unregistration has yet to hand
over the removal. The tick is skipped, and nobody is on the way who would make up for it: in the end the new entry is there, never
synchronized, and all is quiet. -/
theorem State.Run.inaugurates_not_after_unregistration :
    let url : AccessUrl := ⟨"http://host"⟩
    let s : Scheduler := ⟨⟨false, 50⟩, false, [], 1000⟩
    let a : Reference := .root .submodel "a"
    ∃ es x es' z, State.Run s ⟨World.initial (.ofNat 1), [], []⟩ es x ∧ State.Run s x es' z ∧
      (∃ t ∈ x.tasks, t.origin = .operation (.schedule (.fresh url)) ∧ t.program = .done (.scheduled (some .skipped))) ∧
      x.world.registry.get? url = some (.fresh url) ∧ (∀ es, ¬x.Attended (.fresh url) es) ∧
      z.tasks = [] ∧ z.world.spawned = [] ∧ es'.filterMap Event.call? = [] ∧
      z.sight url = ⟨[.success (some ⟨[a], []⟩), .success (some ⟨[], [a]⟩)], [], true, none, none, none⟩ := by
  intro url s a
  let go (i n : Nat) : List Choice := List.replicate n (.move i .go)
  let fetched : Choice := .move 0 (.fetched (.ok (.ok ⟨[.root .submodel "a" .null]⟩)))
  let first : List Choice := [.call (.register (.fresh url)), .move 0 .go, .finish 0] ++ .call (.synchronize url) :: go 0 3 ++
    fetched :: go 0 6 ++ .finish 0 :: .call (.unregister url) :: go 0 3 ++ .call (.schedule (.fresh url)) :: go 1 2
  let second : List Choice := .finish 1 :: go 0 3 ++ [.finish 0]
  have hplayed : ((State.replay s ⟨World.initial (.ofNat 1), [], []⟩ first).bind fun r => (r.2.replay s second).map fun r' =>
      (r.2.tasks.map (fun t => (t.guards, t.stance url, t.origin, t.program.value?)), r.2.world.spawned,
        r.2.world.registry.get? url, r'.2.tasks, r'.2.world.spawned, r'.2.sight url)) =
      some ([([⟨1, url⟩], .unregistering, .operation (.unregister url), none),
        ([], .idle, .operation (.schedule (.fresh url)), some (.scheduled (some .skipped)))], [], some (.fresh url), [], [],
        ⟨[.success (some ⟨[a], []⟩), .success (some ⟨[], [a]⟩)], [], true, none, none, none⟩) := by
    cbv
  obtain ⟨⟨es, x⟩, hfirst, h⟩ := Option.bind_eq_some_iff.1 hplayed
  obtain ⟨⟨es', z⟩, hsecond, h⟩ := Option.map_eq_some_iff.1 h
  obtain ⟨htasks, hspawned, hentry, hdone, hnone, hsight⟩ : _ ∧ _ ∧ _ ∧ _ ∧ _ ∧ _ := by simpa only [Prod.mk.injEq] using h
  obtain ⟨t₁, _, hx, h₁, hrest⟩ := List.map_eq_cons_iff.1 htasks
  obtain ⟨t₂, _, rfl, h₂, hnil⟩ := List.map_eq_cons_iff.1 hrest
  obtain rfl := List.map_eq_nil_iff.1 hnil
  obtain ⟨hstance₁, _⟩ : t₁.stance url = .unregistering ∧ _ := (by simpa only [Prod.mk.injEq] using h₁ : _ ∧ _ ∧ _).2
  obtain ⟨hstance₂, horigin, hvalue⟩ : t₂.stance url = .idle ∧ _ ∧ _ := (by simpa only [Prod.mk.injEq] using h₂ : _ ∧ _ ∧ _ ∧ _).2
  have hstances : ∀ t ∈ x.tasks, t.stance url = .unregistering ∨ t.stance url = .idle := by
    rw [hx]
    exact List.forall_mem_cons.2 ⟨Or.inl hstance₁, List.forall_mem_singleton.2 (Or.inr hstance₂)⟩
  have hskipped : ∃ t ∈ x.tasks, t.origin = .operation (.schedule (.fresh url)) ∧ t.program = .done (.scheduled (some .skipped)) :=
    ⟨t₂, hx ▸ List.mem_cons_of_mem _ (List.mem_singleton_self _), horigin, Program.eq_done_of_value? hvalue⟩
  refine ⟨es, x, es', z, State.run_of_replay hfirst, State.run_of_replay hsecond, hskipped, hentry, ?_, hdone, hnone,
    State.calls_of_replay hsecond, hsight⟩
  rintro es (⟨hjob, _⟩ | ⟨ht, _, hs⟩ | ⟨ht, _, hs, _, _⟩)
  · rw [hspawned] at hjob
    exact absurd hjob List.not_mem_nil
  · rcases hstances _ ht with h | h <;> cases h.symm.trans hs
  · rcases hstances _ ht with h | h <;> cases h.symm.trans hs

end CatalogSync.Engine
