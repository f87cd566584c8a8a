import CatalogSync.Proofs.Engine.Likeness
import CatalogSync.Proofs.Engine.Numbers
import CatalogSync.Proofs.Engine.Replay

/-!
# What secrets have a say in

Two runs that start alike, and in which the world outside does the same but for secret values, stay alike (`State.Run.discreet`): what
happens in them differs in the values of headers, and in what callers and the secret store brought, and nowhere else. What programs that
are alike ask for is answered alike (`Answers.alike`), and so one step of two states that are alike leads to such states again
(`State.Alike.step`).
-/

namespace CatalogSync.Engine

/-! ## Worlds -/

/-- The world without secret values. -/
def World.blind (w : World) : World := { w with registry := w.registry.blind, secrets := w.secrets.blind }

/-- Marks have no secrets. -/
theorem World.tryMark_blind (w : World) (url : AccessUrl) :
    w.blind.tryMark url = ((w.tryMark url).1, (w.tryMark url).2.blind) := by
  unfold tryMark
  rw [show w.blind.inFlight = w.inFlight from rfl]
  split <;> rfl

/-- Nor has anything that the swap of a snapshot depends on. -/
theorem World.swap_blind (w : World) (url : AccessUrl) (expected : Option Snapshot) (new : Snapshot) :
    w.blind.swap url expected new = ((w.swap url expected new).1, (w.swap url expected new).2.blind) := by
  unfold swap
  rw [show w.blind.registry.swap w.blind.now url expected new = _ from w.registry.swap_blind w.now url expected new]
  rcases w.registry.swap w.now url expected new with e | ⟨previous, registry⟩ <;> rfl

/-- A task is joined once it has reported, and its report is handed over then. -/
theorem World.perform_join (w : World) (task : Nat) : w.perform (.join task) =
    (w.finished.lookup task).map fun r => (r, { w with finished := w.finished.filter fun x => x.1 ≠ task }) := by
  simp only [perform]
  cases w.finished.lookup task <;> rfl

/-- The world answers the same to a request without secret values. -/
theorem World.perform_of_clear (w : World) {r : Request} (h : r.clear = true) :
    w.blind.perform r = (w.perform r).map fun x => (x.1, x.2.blind) := by
  cases r with
  | sleep t =>
    show (if t ≤ w.now then _ else _) = Option.map _ (if t ≤ w.now then _ else _)
    split <;> rfl
  | permit ticket =>
    show (if w.permits.granted ticket then _ else _) = Option.map _ (if w.permits.granted ticket then _ else _)
    split <;> rfl
  | tryMark url =>
    exact congrArg some (w.tryMark_blind url)
  | join task =>
    rw [perform_join, perform_join, Option.map_map]
    rfl
  | swap url expected new =>
    exact congrArg some (w.swap_blind url expected new)
  | service | services | register | remove | resolve | fetch | advertised => nomatch h
  | _ => rfl

/-- Without secret values, the world answers what it answers with them. -/
theorem World.perform_blind {w v : World} {r : Request} {a : r.Answer} (h : w.perform r = some (a, v)) :
    ∃ b, w.blind.perform r.blind = some (b, v.blind) ∧ (Move.answered r a).blind = .answered r.blind b := by
  cases hr : r.clear with
  | true =>
    rw [Request.blind_of_clear hr]
    exact ⟨a, by rw [w.perform_of_clear hr, h]; rfl, Move.blind_of_clear hr a⟩
  | false =>
    cases r with
    | service url =>
      cases h
      exact ⟨_, congrArg (fun a => some (a, w.blind)) (w.registry.get?_blind url), rfl⟩
    | services =>
      cases h
      exact ⟨_, congrArg (fun a => some (a, w.blind)) w.registry.getAll_blind, rfl⟩
    | register s =>
      cases h
      refine ⟨_, ?_, rfl⟩
      exact congrArg (fun x : Bool × Registry => some (x.1, { w.blind with registry := x.2 })) (w.registry.put_blind s)
    | remove url =>
      cases h
      refine ⟨_, ?_, rfl⟩
      exact congrArg (fun x : Option Service × Registry => some (x.1, { w.blind with registry := x.2 })) (w.registry.remove_blind url)
    | resolve name =>
      cases h
      exact ⟨_, congrArg (fun a => some (a, w.blind)) (w.secrets.resolve_blind name), rfl⟩
    | fetch | advertised => nomatch h
    | _ => nomatch hr

/-! ## Answers and steps -/

/-- What comes from outside in a move, but for secret values. -/
def Move.cue : Move → Cue
  | answered (.fetch _ _) a => .fetched a
  | answered (.advertised _ _) a => .advertised a
  | answered (.resolve _) a => .resolved (a.map fun _ => "")
  | answered (.apply _ _) (.error e) => .refused e
  | expired _ => .expire
  | _ => .go

/-- Without secret values, a request is answered what it is answered with them, if the world outside does the same. -/
theorem Answers.blind {w v : World} {r : Request} {a : r.Answer} (h : Answers w r a v) :
    ∃ b, r.blind.answer? w.blind (Move.answered r a).cue = some (b, v.blind) ∧ (Move.answered r a).blind = .answered r.blind b := by
  cases h with
  | world h =>
    obtain ⟨b, hb, hm⟩ := World.perform_blind h
    cases r with
    -- the cue tells whether there is a secret, so the store of the world is not asked again
    | resolve name =>
      cases h
      exact ⟨_, rfl, rfl⟩
    | fetch | advertised | apply => nomatch h
    | _ => exact ⟨b, hb, hm⟩
  | resolved | fetched | advertised | applied | refused => exact ⟨_, rfl, rfl⟩

/-- In worlds that are the same but for secret values, the same requests are answered the same but for secret values, if the world
outside does the same. -/
theorem Answers.alike {w w' v v' : World} {r r' : Request} {a : r.Answer} {a' : r'.Answer} (h : Answers w r a v)
    (h' : Answers w' r' a' v') (hr : r.blind = r'.blind) (hw : w.blind = w'.blind)
    (hc : (Move.answered r a).cue = (Move.answered r' a').cue) : Answered r r' a a' ∧ v.blind = v'.blind := by
  obtain ⟨b, hb, hm⟩ := h.blind
  obtain ⟨b', hb', hm'⟩ := h'.blind
  rw [hc, hw] at hb
  unfold Answered
  rw [hm, hm']
  generalize r.blind = q at hr b hb
  subst hr
  obtain ⟨rfl, hv⟩ := Prod.mk.inj (Option.some.inj (hb.symm.trans hb'))
  exact ⟨rfl, hv⟩

/-- An answer is not a deadline. -/
theorem Move.cue_answered (r : Request) (a : r.Answer) : (answered r a).cue ≠ .expire := by
  cases r with
  | apply => cases a <;> exact nofun
  | _ => exact nofun

/-- One move of alike programs, in worlds that are the same but for secret values, leads to alike programs in such worlds, if the world
outside does the same. -/
theorem Program.Step.alike {α β : Type} {R : α → β → Prop} {w w' v v' : World} {p q : Program α} {p' q' : Program β} {m m' : Move}
    (h : Step w p m v q) (h' : Step w' p' m' v' q') (hp : p.Alike R p') (hw : w.blind = w'.blind) (hc : m.cue = m'.cue) :
    m.blind = m'.blind ∧ v.blind = v'.blind ∧ q.Alike R q' := by
  cases hp with
  | done => nomatch h
  | ask hr hk =>
    cases h with
    | ask ha =>
      cases h' with
      | ask ha' =>
        obtain ⟨hanswered, hv⟩ := ha.alike ha' hr hw hc
        exact ⟨hanswered, hv, hk _ _ hanswered⟩
  | within hr hk hn =>
    cases h with
    | within ha =>
      cases h' with
      | within ha' =>
        obtain ⟨hanswered, hv⟩ := ha.alike ha' hr hw hc
        exact ⟨hanswered, hv, hk _ _ hanswered⟩
      | expire => exact absurd hc (Move.cue_answered _ _)
    | expire =>
      cases h' with
      | within => exact absurd hc.symm (Move.cue_answered _ _)
      | expire => exact ⟨congrArg Move.expired hr, hw, hn⟩
  | @hold url vigil k k' hk =>
    -- which URLs are marked is no secret, so both sides get the guard or neither does
    have hmark := (w.tryMark_blind url).symm.trans ((congrArg (World.tryMark · url) hw).trans (w'.tryMark_blind url))
    cases h with
    | listen =>
      cases h' with
      | listen =>
        rw [show w.releases = w'.releases from (congrArg World.releases hw :)]
        exact ⟨rfl, hw, .hold hk⟩
    | take ht =>
      cases h' with
      | take ht' =>
        rw [ht, ht'] at hmark
        obtain ⟨hg, hv⟩ := Prod.mk.inj hmark
        obtain rfl := Option.some.inj hg
        exact ⟨rfl, hv, hk _⟩
      | yield ht' =>
        rw [ht, ht'] at hmark
        nomatch (Prod.mk.inj hmark).1
    | yield ht =>
      cases h' with
      | take ht' =>
        rw [ht, ht'] at hmark
        nomatch (Prod.mk.inj hmark).1
      | yield ht' =>
        rw [ht, ht'] at hmark
        exact ⟨rfl, (Prod.mk.inj hmark).2, .hold hk⟩
    | woken =>
      cases h' with
      | woken => exact ⟨rfl, hw, .hold hk⟩

namespace Move

/-- What a move does to guards is no secret. -/
theorem guards_blind (m : Move) (held : List Guard) : m.blind.guards held = m.guards held := by
  cases m with
  | answered r a => cases r <;> rfl
  | _ => rfl

/-- Nor is what it does to permits. -/
theorem permits_blind (m : Move) (held : Nat) : m.blind.permits held = m.permits held := by
  cases m with
  | answered r a => cases r <;> rfl
  | _ => rfl

end Move

/-- Where elements of two lists are related one by one, and told apart by keys that related ones share, those under one key are related,
and so are those around them. -/
theorem forall₂_split {α β κ : Type} {R : α → β → Prop} {f : α → κ} {g : β → κ} {before after : List α} {before' after' : List β} {a : α}
    {b : β} (h : List.Forall₂ R (before ++ a :: after) (before' ++ b :: after')) (hR : ∀ a b, R a b → f a = g b) (hkey : f a = g b)
    (hn : ((before ++ a :: after).map f).Nodup) : List.Forall₂ R before before' ∧ R a b ∧ List.Forall₂ R after after' := by
  have hkeys : (before ++ a :: after).map f = (before' ++ b :: after').map g := by
    rw [← List.forall₂_eq_eq_eq, List.forall₂_map_left_iff, List.forall₂_map_right_iff]
    exact h.imp hR
  rw [List.map_append, List.map_cons, hkey, List.nodup_middle, List.nodup_cons, List.mem_append, not_or] at hn
  rw [List.map_append, List.map_cons, List.map_append, List.map_cons, hkey] at hkeys
  have hlength : before.length = before'.length := by
    simpa only [List.length_map] using congrArg List.length ((List.append_cons_inj_of_notMem hn.1.1 hn.1.2).1 hkeys).1
  have hbefore := List.forall₂_take before.length h
  rw [List.take_left, List.take_left' hlength.symm] at hbefore
  have hafter := List.forall₂_drop before.length h
  rw [List.drop_left, List.drop_left' hlength.symm] at hafter
  exact ⟨hbefore, List.forall₂_cons.1 hafter⟩

/-! ## Tasks -/

/-- That two tasks differ in secret values only, in what they did and in what is left of their programs. -/
structure Task.Alike (t t' : Task) : Prop where
  id : t.id = t'.id
  origin : t.origin.blind = t'.origin.blind
  moves : t.moves.map Move.blind = t'.moves.map Move.blind
  program : t.program.Alike Eq t'.program

namespace Task

variable {s s' : Scheduler} {t t' : Task}

/-- Tasks of alike origins start alike. -/
theorem alike_start (hs : s.blind = s'.blind) {origin origin' : Origin} (ho : origin.blind = origin'.blind) (id : Nat) :
    (start s id origin).Alike (start s' id origin') := ⟨rfl, ho, rfl, Origin.alike hs ho⟩

/-- Alike tasks stay so after moves that look the same. -/
theorem Alike.move (h : t.Alike t') {m m' : Move} (hm : m.blind = m'.blind) {p p' : Program Report} (hp : p.Alike Eq p') :
    (t.move m p).Alike (t'.move m' p') where
  id := h.id
  origin := h.origin
  moves := by
    show (t.moves ++ [m]).map _ = (t'.moves ++ [m']).map _
    rw [List.map_append, List.map_append, h.moves, List.map_singleton, List.map_singleton, hm]
  program := hp

/-- Tasks that are alike hold the same guards. -/
theorem Alike.guards (h : t.Alike t') : t.guards = t'.guards := by
  have hstart : t.origin.guards = t'.origin.guards := by
    have hblind : ∀ origin : Origin, origin.blind.guards = origin.guards := fun origin => by cases origin <;> rfl
    rw [← hblind, h.origin, hblind]
  have hblind : ∀ t : Task, t.guards = (t.moves.map Move.blind).foldl Move.guards t.origin.guards := by
    intro t
    rw [List.foldl_map]
    simp only [Move.guards_blind]
    rfl
  rw [hblind t, hblind t', h.moves, hstart]

/-- Tasks that are alike have or queue for the same number of permits. -/
theorem Alike.permits (h : t.Alike t') : t.permits = t'.permits := by
  have hblind : ∀ t : Task, t.permits = (t.moves.map Move.blind).foldl Move.permits 0 := by
    intro t
    rw [List.foldl_map]
    simp only [Move.permits_blind]
    rfl
  rw [hblind t, hblind t', h.moves]

end Task

/-! ## States and events -/

/-- That two states differ in secret values only. -/
structure State.Alike (x x' : State) : Prop where
  world : x.world.blind = x'.world.blind
  tasks : List.Forall₂ Task.Alike x.tasks x'.tasks
  ended : List.Forall₂ Task.Alike x.ended x'.ended

/-- An event without secret values. -/
def Event.blind : Event → Event
  | called id op => called id op.blind
  | moved id m => moved id m.blind
  | e => e

/-- What comes from outside in a step, but for secret values: what callers ask for, whose turn it is, and what clients and the catalog
say. -/
inductive Input where
  | called (op : Operation)
  | began (id : Nat)
  | moved (id : Nat) (cue : Cue)
  | ended (id : Nat)
  | cut (id : Nat) (reason : String)
  | passed (time : Nat)

/-- What comes from outside in an event, but for secret values. -/
def Event.input : Event → Input
  | called _ op => .called op.blind
  | began id _ => .began id
  | moved id m => .moved id m.cue
  | ended id _ => .ended id
  | cut id reason => .cut id reason
  | passed time => .passed time

/-- Programs that are alike are both done with one value, or both not done. -/
theorem Program.Alike.value?_eq {α : Type} {p p' : Program α} (h : p.Alike Eq p') : p.value? = p'.value? := by
  cases h with
  | done h => exact congrArg some h
  | ask | within | hold => rfl

/-- Alike programs that are done have come to the same value. -/
theorem Program.Alike.eq_of_done {α : Type} {p p' : Program α} {a a' : α} (h : p.Alike Eq p') (hp : p = .done a) (hp' : p' = .done a') :
    a = a' := by
  have hvalue := h.value?_eq
  rw [hp, hp'] at hvalue
  exact Option.some.inj hvalue

/-- A step of states that are alike leads to states that are alike, if what comes from outside is the same. -/
theorem State.Alike.step {s s' : Scheduler} {x x' y y' : State} {e e' : Event} (h : x.Alike x') (hn : x.Numbered)
    (hs : s.blind = s'.blind) (hx : State.Step s x e y) (hx' : State.Step s' x' e' y') (hi : e.input = e'.input) :
    e.blind = e'.blind ∧ y.Alike y' := by
  obtain ⟨hworld, htasks, hended⟩ := h
  have hcount : x.world.taskCount = x'.world.taskCount := (congrArg World.taskCount hworld :)
  have hspawned : x.world.spawned = x'.world.spawned := (congrArg World.spawned hworld :)
  have hids := hn.nodup_numbers
  cases hx with
  | call w ts past op =>
    cases hx' with
    | call w' ts' past' op' =>
      have hop : op.blind = op'.blind := Input.called.inj hi
      dsimp only at hcount hworld
      refine ⟨?_, congrArg (fun w : World => { w with taskCount := w.taskCount + 1 }) hworld, ?_, hended⟩
      · show Event.called w.taskCount op.blind = .called w'.taskCount op'.blind
        rw [hcount, hop]
      · rw [hcount]
        have horigin : Origin.blind (.operation op) = Origin.blind (.operation op') := congrArg Origin.operation hop
        exact List.rel_append htasks (.cons (Task.alike_start hs horigin _) .nil)
    | begin | move | finish | cut | pass => nomatch hi
  | @begin w ts past before after id job hjob =>
    cases hx' with
    | @begin w' ts' past' before' after' id' job' hjob' =>
      obtain rfl : id = id' := Input.began.inj hi
      have hjobs : List.Forall₂ Eq (before ++ (id, job) :: after) (before' ++ (id, job') :: after') := by
        rw [List.forall₂_eq_eq_eq]
        exact hjob.symm.trans (hspawned.trans hjob')
      obtain ⟨hbefore, hsame, hafter⟩ := forall₂_split hjobs (fun _ _ => congrArg Prod.fst) rfl (hjob ▸ hids.1)
      rw [List.forall₂_eq_eq_eq] at hbefore hafter
      subst hbefore hafter
      obtain rfl := (Prod.mk.inj hsame).2
      refine ⟨rfl, congrArg (fun w : World => { w with spawned := before ++ after }) hworld, ?_, hended⟩
      have horigin : Origin.blind (.job job) = Origin.blind (.job job) := rfl
      exact List.rel_append htasks (.cons (Task.alike_start hs horigin _) .nil)
    | call | move | finish | cut | pass => nomatch hi
  | @move w v before after past t m p hp =>
    cases hx' with
    | @move w' v' before' after' past' t' m' p' hp' =>
      obtain ⟨hid, hcue⟩ := Input.moved.inj hi
      -- tasks are told apart by their numbers, so on both sides it is the turn of tasks that are alike
      obtain ⟨hbefore, ht, hafter⟩ := forall₂_split htasks (fun _ _ ht => ht.id) hid hids.2
      obtain ⟨hm, hv, hp⟩ := hp.alike hp' ht.program hworld hcue
      refine ⟨?_, hv, List.rel_append hbefore (.cons (ht.move hm hp) hafter), hended⟩
      show Event.moved t.id m.blind = .moved t'.id m'.blind
      rw [hid, hm]
    | call | begin | finish | cut | pass => nomatch hi
  | @finish w before after past t report hr =>
    cases hx' with
    | @finish w' before' after' past' t' report' hr' =>
      have hid := Input.ended.inj hi
      obtain ⟨hbefore, ht, hafter⟩ := forall₂_split htasks (fun _ _ ht => ht.id) hid hids.2
      obtain rfl : report = report' := ht.program.eq_of_done hr hr'
      refine ⟨congrArg (Event.ended · report) hid, ?_, List.rel_append hbefore hafter, List.rel_append hended (.cons ht .nil)⟩
      show ((report.tick?.map (w.finish t.id)).getD w).blind = ((report.tick?.map (w'.finish t'.id)).getD w').blind
      rw [← hid]
      cases report.tick? with
      | none => exact hworld
      | some r => exact congrArg (World.finish · t.id r) hworld
    | call | begin | move | cut | pass => nomatch hi
  | @cut w before after past t hi reason =>
    cases hx' with
    | @cut w' before' after' past' t' hi' reason' =>
      obtain ⟨hid, rfl⟩ := Input.cut.inj hi
      obtain ⟨hbefore, ht, hafter⟩ := forall₂_split htasks (fun _ _ ht => ht.id) hid hids.2
      refine ⟨congrArg (Event.cut · reason) hid, hworld, List.rel_append hbefore (.cons ?_ hafter), hended⟩
      rw [ht.guards, ht.permits]
      exact ⟨ht.id, ht.origin, ht.moves, alike_unwind _ _ _⟩
    | call | begin | move | finish | pass => nomatch hi
  | pass w ts past time =>
    cases hx' with
    | pass w' ts' past' time' =>
      obtain rfl := Input.passed.inj hi
      exact ⟨rfl, congrArg (fun w : World => { w with now := w.now + time }) hworld, htasks, hended⟩
    | call | begin | move | finish | cut => nomatch hi

/-! ## Two runs -/

/-- Runs from states that are alike lead to states that are alike, if what comes from outside is the same. -/
theorem State.Run.alike {s s' : Scheduler} {start start' x x' : State} {es es' : List Event} (h : State.Run s start es x)
    (h' : State.Run s' start' es' x') (hq : start.Quiet) (hs : s.blind = s'.blind) (hstart : start.Alike start')
    (hi : es.map Event.input = es'.map Event.input) : es.map Event.blind = es'.map Event.blind ∧ x.Alike x' := by
  induction h generalizing es' x' with
  | refl =>
    have hnil : es' = [] := List.map_eq_nil_iff.1 hi.symm
    cases h' with
    | refl => exact ⟨rfl, hstart⟩
    | step => exact absurd hnil (by simp)
  | step h hx ih =>
    cases h' with
    | refl => exact absurd hi (by simp)
    | step h' hx' =>
      rw [List.map_append, List.map_append] at hi
      obtain ⟨hbefore, hlast⟩ := List.append_inj' hi rfl
      obtain ⟨hes, hy⟩ := ih h' hbefore
      obtain ⟨he, halike⟩ := hy.step (h.numbered hq.tasks hq.ended hq.spawned) hs hx hx' (List.singleton_inj.1 hlast)
      refine ⟨?_, halike⟩
      rw [List.map_append, List.map_append, hes, List.map_singleton, List.map_singleton, he]

/-! ## What can be observed -/

/-- A call of the catalog in a move, with its answer unless the deadline took effect first. -/
def Move.catalogCall? : Move → Option (AccessUrl × ResourceChanges × Option (Except ApplyError Unit))
  | answered (.apply url c) a => some (url, c, some a)
  | expired (.apply url c) => some (url, c, none)
  | _ => none

/-- A call of the catalog in an event: the number of the task, and the call. -/
def Event.catalogCall? : Event → Option (Nat × AccessUrl × ResourceChanges × Option (Except ApplyError Unit))
  | moved id m => m.catalogCall?.map fun call => (id, call)
  | _ => none

/-- What the catalog is asked for has no secret in it. -/
theorem Event.catalogCall?_blind (e : Event) : e.blind.catalogCall? = e.catalogCall? := by
  cases e with
  | moved id m =>
    refine congrArg (Option.map fun call => (id, call)) ?_
    cases m with
    | answered r a => cases r <;> rfl
    | expired r => cases r <;> rfl
    | _ => rfl
  | _ => rfl

/-- What two runs have in common: all that happens but for secret values, what tasks came to, what the sink was told, the entries of the
registry with their descriptions, and what the catalog was asked for and has. -/
structure Indistinct (es es' : List Event) (x x' : State) : Prop where
  events : es.map Event.blind = es'.map Event.blind
  results : (x.ended.map fun t => (t.id, t.program.value?)) = x'.ended.map fun t => (t.id, t.program.value?)
  reports : x.world.reports = x'.world.reports
  snapshots : ∀ url, (x.world.registry.get? url).bind Service.snapshot = (x'.world.registry.get? url).bind Service.snapshot
  calls : es.filterMap Event.catalogCall? = es'.filterMap Event.catalogCall?
  catalog : x.world.catalog = x'.world.catalog
  services : ∀ url graph time,
    x.world.registry.getAll.map (Service.describe url graph time) = x'.world.registry.getAll.map (Service.describe url graph time)
  methods : (x.world.registry.getAll.map fun service => service.auth.describe) =
    x'.world.registry.getAll.map fun service => service.auth.describe

/-- Two runs from before anything has begun that differ in secret values only, and in which clients and the catalog answer the same,
have in common all but the secret values: the values of headers, and those that callers or the secret store brought. -/
theorem State.Run.discreet {s s' : Scheduler} {start start' x x' : State} {es es' : List Event} (h : State.Run s start es x)
    (h' : State.Run s' start' es' x') (hq : start.Quiet) (hq' : start'.Quiet) (hs : s.blind = s'.blind)
    (hw : start.world.blind = start'.world.blind) (hi : es.map Event.input = es'.map Event.input) : Indistinct es es' x x' := by
  have hstart : start.Alike start' := by
    refine ⟨hw, ?_, ?_⟩
    · rw [hq.tasks, hq'.tasks]
      exact .nil
    · rw [hq.ended, hq'.ended]
      exact .nil
  obtain ⟨hes, hworld, -, hended⟩ := h.alike h' hq hs hstart hi
  have hregistry : x.world.registry.blind = x'.world.registry.blind := congrArg World.registry hworld
  have hgetAll : x.world.registry.getAll.map Service.blind = x'.world.registry.getAll.map Service.blind := by
    rw [← Registry.getAll_blind, hregistry, Registry.getAll_blind]
  -- whatever is said of a service without its secrets is said of both listings
  have hview : ∀ {γ : Type} (view : Service → γ), (∀ s, view s.blind = view s) →
      x.world.registry.getAll.map view = x'.world.registry.getAll.map view := by
    intro γ view hview
    have hblind : ∀ services : List Service, services.map view = (services.map Service.blind).map view := by
      intro services
      rw [List.map_map]
      exact List.map_congr_left fun s _ => (hview s).symm
    rw [hblind, hgetAll, ← hblind]
  exact {
    events := hes
    results := by
      rw [← List.forall₂_eq_eq_eq, List.forall₂_map_left_iff, List.forall₂_map_right_iff]
      exact hended.imp fun _ _ ht => Prod.ext ht.id ht.program.value?_eq
    reports := (congrArg World.reports hworld :)
    snapshots := by
      intro url
      have hsnapshot : ∀ r : Registry, (r.get? url).bind Service.snapshot = (r.blind.get? url).bind Service.snapshot := by
        intro r
        rw [Registry.get?_blind]
        cases r.get? url <;> rfl
      rw [hsnapshot, hregistry, ← hsnapshot]
    calls := by
      have hblind : ∀ es : List Event, es.filterMap Event.catalogCall? = (es.map Event.blind).filterMap Event.catalogCall? := by
        intro es
        rw [List.filterMap_map]
        exact List.filterMap_congr fun e _ => e.catalogCall?_blind.symm
      rw [hblind, hes, ← hblind]
    catalog := (congrArg World.catalog hworld :)
    services := fun url graph time => hview _ fun s => s.describe_blind url graph time
    methods := hview _ fun s => s.auth.describe_blind }

/-- A password, a key and what the secret store holds under an alias show in the headers of three ticks and nowhere else. -/
theorem State.Run.discreet_headers :
    let s : Scheduler := ⟨⟨false, 1000⟩, false, [], 1000⟩
    let start : State := ⟨World.initial (.ofNat 1), [], []⟩
    let headers (e : Event) : Option Headers :=
      match e with
      | .moved _ (.answered (.fetch _ headers) _) => some headers
      | _ => none
    ∃ es x es' x', State.Run s start es x ∧ State.Run s start es' x' ∧ start.Quiet ∧ es.map Event.input = es'.map Event.input ∧
      es.filterMap headers = [[("Authorization", "Basic dXNlcjpvbmU=")], [("key", "one")], [("x-api-key", "one")]] ∧
      es'.filterMap headers = [[("Authorization", "Basic dXNlcjp0d28=")], [("key", "two")], [("x-api-key", "two")]] ∧
      Indistinct es es' x x' := by
  intro s start headers
  let a : AccessUrl := ⟨"http://a"⟩
  let b : AccessUrl := ⟨"http://b"⟩
  let c : AccessUrl := ⟨"http://c"⟩
  let graph : Graph := ⟨[.root .submodel "sm" .null]⟩
  let register (url : AccessUrl) (auth : AuthMethod) : List Choice :=
    [.call (.register ((Service.fresh url).withAuth auth)), .move 0 .go, .finish 0]
  let tick (url : AccessUrl) (cues : List Cue) : List Choice :=
    .call (.synchronize url) :: cues.map (.move 0) ++ [.finish 0]
  let fetch : List Cue := [.fetched (.ok (.ok graph)), .go, .go, .go, .go, .go, .go]
  let choices (secret : String) : List Choice :=
    register a (.basic "user" ⟨secret⟩) ++ register b (.apiKey "key" ⟨secret⟩) ++ register c (.vault "key") ++
      tick a (.go :: .go :: .go :: fetch) ++ tick b (.go :: .go :: .go :: fetch) ++
      tick c (.go :: .go :: .go :: .resolved (some secret) :: fetch)
  have hinput : (start.replay s (choices "one")).map (fun r => r.1.map Event.input) =
      (start.replay s (choices "two")).map fun r => r.1.map Event.input := by cbv
  obtain ⟨⟨es, x⟩, hr, hsent⟩ := Option.map_eq_some_iff.1
    (by cbv : (start.replay s (choices "one")).map (fun r => r.1.filterMap headers) =
      some [[("Authorization", "Basic dXNlcjpvbmU=")], [("key", "one")], [("x-api-key", "one")]])
  obtain ⟨⟨es', x'⟩, hr', hsent'⟩ := Option.map_eq_some_iff.1
    (by cbv : (start.replay s (choices "two")).map (fun r => r.1.filterMap headers) =
      some [[("Authorization", "Basic dXNlcjp0d28=")], [("key", "two")], [("x-api-key", "two")]])
  have hi : es.map Event.input = es'.map Event.input := by
    rw [hr, hr'] at hinput
    exact Option.some.inj hinput
  have hquiet : start.Quiet := State.quiet_initial _
  exact ⟨es, x, es', x', State.run_of_replay hr, State.run_of_replay hr', hquiet, hi, hsent, hsent',
    State.Run.discreet (State.run_of_replay hr) (State.run_of_replay hr') hquiet hquiet rfl rfl hi⟩

end CatalogSync.Engine
