import CatalogSync.Proofs.Engine.Stint

/-!
# The succession of snapshots

Any number of tasks may exchange the snapshot of one entry, each on the strength of what it read before. As long as every snapshot that
is offered is a new object, the exchanges that succeed form one chain: each of them replaces what the one before it stored, so of those
that read the same snapshot at most one succeeds, and nothing that was stored gets lost unseen (`State.Run.succession`).
-/

namespace CatalogSync.Engine

/-! ## Exchanges -/

/-- What every change of the registry keeps holds wherever a run leads to. -/
theorem State.Run.registry {s : Scheduler} {P : Registry → Prop} {start x : State} {es : List Event} (h : State.Run s start es x)
    (h₀ : P start.world.registry) (hP : ∀ r r', P r → r.Edit r' → P r') : P x.world.registry :=
  h.invariant (P := fun x => P x.world.registry) h₀ fun _ _ _ _ hx hs => hP _ _ hx hs.edit

/-- A snapshot stored in place of another: the one that was expected, the one that was there, and the new one. -/
structure Exchange where
  expected : Option Snapshot
  previous : Option Snapshot
  new : Snapshot

namespace Exchange

/-- The snapshots that an entry had, the first of them before the exchanges and each other one since one of them. -/
def stored (first : Option Snapshot) (xs : List Exchange) : List (Option Snapshot) := first :: xs.map fun x => some x.new

/-- The snapshot that exchanges leave. -/
def last (first : Option Snapshot) (xs : List Exchange) : Option Snapshot := xs.foldl (fun _ x => some x.new) first

/-- Each exchange expects and replaces what the one before it stored. -/
def Linked : Option Snapshot → List Exchange → Prop
  | _, [] => True
  | current, x :: rest => x.expected = current ∧ x.previous = current ∧ Linked (some x.new) rest

variable {first : Option Snapshot} {xs : List Exchange} {x : Exchange}

@[simp] theorem last_concat : last first (xs ++ [x]) = some x.new := by simp [last]

@[simp] theorem stored_concat : stored first (xs ++ [x]) = stored first xs ++ [some x.new] := by simp [stored]

/-- What the exchanges leave is among the snapshots that the entry had. -/
theorem last_mem_stored (first : Option Snapshot) (xs : List Exchange) : last first xs ∈ stored first xs := by
  induction xs generalizing first with
  | nil => exact List.mem_singleton_self _
  | cons x rest ih => exact List.mem_cons_of_mem _ (ih (some x.new))

/-- A chain goes on with an exchange that expects and replaces its last snapshot. -/
theorem Linked.concat (h : Linked first xs) (he : x.expected = last first xs) (hp : x.previous = last first xs) :
    Linked first (xs ++ [x]) := by
  induction xs generalizing first with
  | nil => exact ⟨he, hp, trivial⟩
  | cons y rest ih => exact ⟨h.1, h.2.1, ih h.2.2 he hp⟩

/-- What linked exchanges expect is what was stored, but for the last of it. -/
theorem Linked.map_expected (h : Linked first xs) : xs.map Exchange.expected = (stored first xs).dropLast := by
  induction xs generalizing first with
  | nil => rfl
  | cons y rest ih =>
    obtain ⟨he, _, hrest⟩ := h
    rw [List.map_cons, ih hrest, he]
    rfl

end Exchange

open Exchange

/-- The exchange that an event makes at a URL, if it makes one. -/
def Event.exchange? (url : AccessUrl) : Event → Option Exchange
  | .moved _ (.answered (.swap u expected new) (.ok previous)) => if u = url then some ⟨expected, previous, new⟩ else none
  | _ => none

/-- The exchanges that events make at a URL, in order. -/
def exchanges (url : AccessUrl) (es : List Event) : List Exchange := es.filterMap (Event.exchange? url)

theorem exchanges_concat (url : AccessUrl) (es : List Event) (e : Event) :
    exchanges url (es ++ [e]) = exchanges url es ++ (e.exchange? url).toList := by
  rw [exchanges, List.filterMap_append]
  cases h : e.exchange? url <;> simp [exchanges, h]

/-- Whoever offers a snapshot at a URL expects one that it read before, and offers an object that was never stored there; and nobody
takes the entry out. -/
structure Orderly (url : AccessUrl) (first : Option Snapshot) (es : List Event) : Prop where
  read : ∀ es₁ id expected new a es₂, es = es₁ ++ .moved id (.answered (.swap url expected new) a) :: es₂ →
    ∃ service, .moved id (.answered (.service url) (some service)) ∈ es₁ ∧ service.snapshot = expected
  fresh : ∀ es₁ id expected new a es₂, es = es₁ ++ .moved id (.answered (.swap url expected new) a) :: es₂ →
    some new.id ∉ (stored first (exchanges url es₁)).map (Option.map Snapshot.id)
  kept : ∀ id a, .moved id (.answered (.remove url) a) ∉ es

/-- What keeps to the order kept to it before. -/
theorem Orderly.of_concat {url : AccessUrl} {first : Option Snapshot} {es : List Event} {e : Event}
    (h : Orderly url first (es ++ [e])) : Orderly url first es := by
  refine ⟨fun es₁ id expected new a es₂ he => ?_, fun es₁ id expected new a es₂ he => ?_, fun id a hm => ?_⟩
  · exact h.read es₁ id expected new a (es₂ ++ [e]) (by rw [he, List.append_assoc]; rfl)
  · exact h.fresh es₁ id expected new a (es₂ ++ [e]) (by rw [he, List.append_assoc]; rfl)
  · exact h.kept id a (List.mem_append_left _ hm)

/-! ## What a move does to the entry -/

/-- An exchange that fails leaves the world as it is, and the error says why. -/
theorem Answers.swap_error {w w' : World} {url : AccessUrl} {expected : Option Snapshot} {new : Snapshot} {e : RegistryError}
    (h : Answers w (.swap url expected new) (.error e) w') :
    w' = w ∧ ((w.registry.get? url = none ∧ e = .notRegistered url) ∨
      ∃ service, w.registry.get? url = some service ∧ service.snapshot.map Snapshot.id ≠ expected.map Snapshot.id ∧
        e = .snapshotConflict url) := by
  cases h with
  | world h =>
    have hswap : w.swap url expected new = (.error e, w') := Option.some.inj h
    unfold World.swap at hswap
    rcases w.registry.swap_cases w.now url expected new with ⟨s, _, _, he⟩ | ⟨s, hs, hid, he⟩ | ⟨hs, he⟩ <;>
      rw [he] at hswap <;> cases hswap
    · exact ⟨rfl, Or.inr ⟨s, hs, hid, rfl⟩⟩
    · exact ⟨rfl, Or.inl ⟨hs, rfl⟩⟩

/-- An exchange that succeeds replaces the snapshot of the entry at its URL, and no other entry. -/
theorem World.entries_of_swap {w w' : World} {u : AccessUrl} {expected previous : Option Snapshot} {new : Snapshot}
    (hw : w.registry.Keyed) (h : w.swap u expected new = (.ok previous, w')) :
    ∃ s, w.registry.get? u = some s ∧ s.snapshot.map Snapshot.id = expected.map Snapshot.id ∧ s.snapshot = previous ∧
      ∀ url, w'.registry.get? url =
        if url = u then some { s with snapshot := some new, lastSynced := some w.now } else w.registry.get? url := by
  rcases World.swap_cases h with ⟨s, hs, hid, hprevious, rfl⟩ | ⟨_, _, he, _⟩
  · obtain rfl := hw u s hs
    refine ⟨s, hs, hid, (Except.ok.inj hprevious).symm, fun url => ?_⟩
    show (w.registry.replace _).get? url = _
    rw [Registry.get?_replace]
    refine ite_congr rfl (fun _ => ?_) fun _ => rfl
    rw [hs]
    rfl
  · nomatch he

/-- What a move at a time makes of the entry of a URL. -/
inductive Move.Amends (url : AccessUrl) (time : Nat) : Move → Option Service → Option Service → Prop where
  /-- Nothing, and the move is none that would have made something else of it. -/
  | kept {m : Move} {entry : Option Service} (hregister : ∀ service, service.url = url → m ≠ .answered (.register service) true)
    (hremove : ∀ a, m ≠ .answered (.remove url) a)
    (hswap : ∀ expected new previous, m ≠ .answered (.swap url expected new) (.ok previous)) : Amends url time m entry entry
  | registered {service : Service} (hu : service.url = url) :
    Amends url time (.answered (.register service) true) none (some service)
  | removed (entry : Option Service) : Amends url time (.answered (.remove url) entry) entry none
  | exchanged {service : Service} {expected : Option Snapshot} {new : Snapshot}
    (hid : service.snapshot.map Snapshot.id = expected.map Snapshot.id) :
    Amends url time (.answered (.swap url expected new) (.ok service.snapshot)) (some service)
      (some { service with snapshot := some new, lastSynced := some time })

/-- A registration makes an entry where there is none, and leaves every other one. -/
theorem World.amends_register (w : World) (service : Service) (url : AccessUrl) :
    (Move.answered (.register service) (w.registry.put service).1).Amends url w.now (w.registry.get? url)
      ((w.registry.put service).2.get? url) := by
  rw [Registry.get?_put]
  by_cases hu : url = service.url
  · subst hu
    rw [if_pos rfl]
    cases hs : w.registry.get? service.url with
    | none =>
      have hnew : (w.registry.put service).1 = true := by rw [Registry.fst_put, hs]; rfl
      rw [hnew]
      exact .registered rfl
    | some other =>
      have hold : (w.registry.put service).1 = false := by rw [Registry.fst_put, hs]; rfl
      rw [hold]
      exact .kept (fun _ _ he => by cases he) nofun nofun
  · rw [if_neg hu, Option.or_none]
    refine .kept (fun other ho he => ?_) nofun nofun
    obtain rfl : service = other := Request.register.inj (Move.answered.inj he).1
    exact hu ho.symm

/-- A removal takes out the entry of its URL, and leaves every other one. -/
theorem World.amends_remove (w : World) (u url : AccessUrl) :
    (Move.answered (.remove u) (w.registry.get? u)).Amends url w.now (w.registry.get? url) ((w.registry.remove u).2.get? url) := by
  rw [Registry.get?_remove]
  by_cases hu : url = u
  · subst hu
    rw [if_pos rfl]
    exact .removed _
  · rw [if_neg hu]
    refine .kept nofun (fun a he => ?_) nofun
    cases he
    exact hu rfl

/-- A swap that succeeds exchanges the snapshot of the entry of its URL, and leaves every other one. -/
theorem World.amends_swap {w w' : World} {u : AccessUrl} {expected previous : Option Snapshot} {new : Snapshot}
    (hw : w.registry.Keyed) (h : w.swap u expected new = (.ok previous, w')) (url : AccessUrl) :
    (Move.answered (.swap u expected new) (.ok previous)).Amends url w.now (w.registry.get? url) (w'.registry.get? url) := by
  obtain ⟨service, hs, hid, rfl, hentries⟩ := World.entries_of_swap hw h
  rw [hentries]
  by_cases hu : url = u
  · subst hu
    rw [if_pos rfl, hs]
    exact .exchanged hid
  · rw [if_neg hu]
    refine .kept nofun nofun fun expected' new' previous' he => ?_
    cases he
    exact hu rfl

/-- Every move makes one of these of an entry. -/
theorem Program.Step.amends {α : Type} {w w' : World} {p p' : Program α} {m : Move} (h : Program.Step w p m w' p')
    (hw : w.registry.Keyed) (url : AccessUrl) : m.Amends url w.now (w.registry.get? url) (w'.registry.get? url) := by
  cases hwrites : m.writes with
  | false =>
    -- a move that does not write leaves the registry as it was
    rw [(h.idle hwrites).1]
    refine .kept ?_ ?_ ?_
    · rintro service _ rfl
      nomatch hwrites
    · rintro a rfl
      nomatch hwrites
    · rintro expected new previous rfl
      nomatch hwrites
  | true =>
    unfold Move.writes at hwrites
    split at hwrites
    · rename_i service isNew
      cases h.answers with
      | world h =>
        obtain ⟨rfl, rfl⟩ := Prod.mk.inj (Option.some.inj h)
        exact w.amends_register service url
    · rename_i u entry
      cases h.answers with
      | world h =>
        obtain ⟨rfl, rfl⟩ := Prod.mk.inj (Option.some.inj h)
        exact w.amends_remove u url
    · cases h.answers with
      | world h => exact World.amends_swap hw (Option.some.inj h) url
    · cases h.answers with
      | world h => nomatch h
      | applied => exact .kept nofun nofun nofun
    · nomatch hwrites

/-- What a move does to an entry that it does not take out: it exchanges the snapshot, or it leaves the entry as it is. -/
theorem Program.Step.entry {α : Type} {w w' : World} {p p' : Program α} {m : Move} (h : Program.Step w p m w' p')
    (hw : w.registry.Keyed) {url : AccessUrl} {service : Service} (hs : w.registry.get? url = some service)
    (hm : ∀ a, m ≠ .answered (.remove url) a) :
    (∃ expected new, m = .answered (.swap url expected new) (.ok service.snapshot) ∧
      service.snapshot.map Snapshot.id = expected.map Snapshot.id ∧
      w'.registry.get? url = some { service with snapshot := some new, lastSynced := some w.now }) ∨
    (w'.registry.get? url = some service ∧ ∀ expected new previous, m ≠ .answered (.swap url expected new) (.ok previous)) := by
  have hamends := h.amends hw url
  rw [hs] at hamends
  generalize w'.registry.get? url = entry at hamends
  cases hamends with
  | kept _ _ hswap => exact Or.inr ⟨rfl, hswap⟩
  | removed => exact absurd rfl (hm _)
  | exchanged hid => exact Or.inl ⟨_, _, rfl, hid, rfl⟩

/-! ## What a step preserves -/

/-- What is so of the exchanges at a URL, of the entry and of what was read of it after events that kept to the order. -/
structure Succession (url : AccessUrl) (first : Option Snapshot) (es : List Event) (w : World) : Prop where
  linked : Linked first (exchanges url es)
  distinct : ((stored first (exchanges url es)).map (Option.map Snapshot.id)).Nodup
  entry : ∃ service, w.registry.get? url = some service ∧ service.snapshot = last first (exchanges url es)
  reads : ∀ id service, .moved id (.answered (.service url) (some service)) ∈ es →
    service.snapshot ∈ stored first (exchanges url es)

section

variable {s : Scheduler} {start x y : State} {e : Event} {es : List Event} {url : AccessUrl} {first : Option Snapshot}

/-- An event without an exchange at the URL, after which the entry is as before. -/
theorem Succession.idle (h : Succession url first es x.world) (hx : e.exchange? url = none)
    (hentry : y.world.registry.get? url = x.world.registry.get? url)
    (hread : ∀ id service, e = .moved id (.answered (.service url) (some service)) → x.world.registry.get? url = some service) :
    Succession url first (es ++ [e]) y.world := by
  have hsame : exchanges url (es ++ [e]) = exchanges url es := by simp [exchanges_concat, hx]
  obtain ⟨service, hs, hlast⟩ := h.entry
  refine ⟨hsame ▸ h.linked, hsame ▸ h.distinct, ⟨service, hentry.trans hs, hsame ▸ hlast⟩, fun id service' hm => ?_⟩
  rw [hsame]
  rcases List.mem_append.1 hm with hm | hm
  · exact h.reads id service' hm
  · obtain rfl := Option.some.inj (hs.symm.trans (hread id service' (List.mem_singleton.1 hm).symm))
    exact hlast ▸ last_mem_stored _ _

/-- Only a swap that succeeded is an exchange. -/
theorem Event.exchange?_moved_eq_none {id : Nat} {m : Move}
    (hm : ∀ expected new previous, m ≠ .answered (.swap url expected new) (.ok previous)) : (moved id m).exchange? url = none := by
  unfold exchange?
  split
  · rename_i u expected new previous he
    refine if_neg ?_
    rintro rfl
    exact hm expected new previous (Event.moved.inj he).2
  · rfl

/-- An exchange that succeeds replaces the last snapshot stored, since it expects one that was read before. -/
theorem Succession.exchange (h : Succession url first es x.world) {id : Nat} {expected : Option Snapshot} {new : Snapshot}
    {service : Service} (hs : x.world.registry.get? url = some service)
    (ho : Orderly url first (es ++ [.moved id (.answered (.swap url expected new) (.ok service.snapshot))]))
    (hid : service.snapshot.map Snapshot.id = expected.map Snapshot.id) {time : Nat}
    (hy : y.world.registry.get? url = some { service with snapshot := some new, lastSynced := some time }) :
    Succession url first (es ++ [.moved id (.answered (.swap url expected new) (.ok service.snapshot))]) y.world := by
  have hnow : service.snapshot = last first (exchanges url es) := by
    obtain ⟨service', hs', hlast⟩ := h.entry
    rwa [Option.some.inj (hs'.symm.trans hs)] at hlast
  obtain ⟨read, hread, rfl⟩ := ho.read es id expected new _ [] rfl
  have hmem : service.snapshot ∈ stored first (exchanges url es) := hnow ▸ last_mem_stored _ _
  have hsame : read.snapshot = service.snapshot := (List.inj_on_of_nodup_map h.distinct hmem (h.reads id read hread) hid).symm
  have hadd : exchanges url (es ++ [.moved id (.answered (.swap url read.snapshot new) (.ok service.snapshot))]) =
      exchanges url es ++ [⟨read.snapshot, service.snapshot, new⟩] := by
    simp [exchanges_concat, Event.exchange?]
  refine ⟨?_, ?_, ⟨_, hy, ?_⟩, fun id' service' hm => ?_⟩ <;> rw [hadd]
  · exact h.linked.concat (hsame.trans hnow) hnow
  · rw [stored_concat, List.map_append]
    refine List.nodup_append.2 ⟨h.distinct, by simp, ?_⟩
    rintro a ha b hb rfl
    obtain rfl : a = some new.id := List.mem_singleton.1 hb
    exact ho.fresh es id _ new _ [] rfl ha
  · rw [last_concat]
  · rw [stored_concat]
    rcases List.mem_append.1 hm with hm | hm
    · exact List.mem_append_left _ (h.reads id' service' hm)
    · nomatch List.mem_singleton.1 hm

/-- A step that keeps to the order goes on with the chain. -/
theorem Succession.step (h : Succession url first es x.world) (hx : x.world.registry.Keyed) (hs : State.Step s x e y)
    (ho : Orderly url first (es ++ [e])) : Succession url first (es ++ [e]) y.world := by
  cases hs with
  | @move w w' before after past t m p hp =>
    obtain ⟨service, hentry, _⟩ := h.entry
    have hkept : ∀ a, m ≠ .answered (.remove url) a := by
      rintro a rfl
      exact ho.kept t.id a (List.mem_append_right _ (List.mem_singleton_self _))
    rcases hp.entry hx hentry hkept with ⟨expected, new, rfl, hid, hw'⟩ | ⟨hw', hm⟩
    · exact h.exchange hentry ho hid hw'
    · refine h.idle (Event.exchange?_moved_eq_none hm) (hw'.trans hentry.symm) fun id read he => ?_
      obtain ⟨_, rfl⟩ := Event.moved.inj he
      cases hp.answers with
      | world ha => exact congrArg Prod.fst (Option.some.inj ha)
  | call | begin | cut | pass => exact h.idle rfl rfl nofun
  | @finish w before after past t report hr => exact h.idle rfl (by cases report.tick? <;> rfl) nofun

end

/-! ## Runs -/

/-- In a run in which any number of tasks exchange the snapshot of an entry, each of them for a new object and on the strength of what
it read before, the exchanges that succeed form one chain: each of them expects and replaces what the one before it stored, and the
first one what was there to begin with. So no two of them expect the same snapshot, and the entry has the last one that was stored. An
exchange that fails leaves the whole registry as it is. -/
theorem State.Run.succession {s : Scheduler} {start x : State} {es : List Event} (h : State.Run s start es x)
    (hk : start.world.registry.Keyed) {url : AccessUrl} {service : Service} (hs : start.world.registry.get? url = some service)
    (ho : Orderly url service.snapshot es) :
    Linked service.snapshot (exchanges url es) ∧ ((exchanges url es).map Exchange.expected).Nodup ∧
    (∃ service', x.world.registry.get? url = some service' ∧ service'.snapshot = last service.snapshot (exchanges url es)) ∧
    ∀ y z id u expected new e, State.Step s y (.moved id (.answered (.swap u expected new) (.error e))) z →
      z.world.registry = y.world.registry ∧ ((y.world.registry.get? u = none ∧ e = .notRegistered u) ∨
        ∃ other, y.world.registry.get? u = some other ∧ other.snapshot.map Snapshot.id ≠ expected.map Snapshot.id ∧
          e = .snapshotConflict u) := by
  have hsuccession : Succession url service.snapshot es x.world := by
    induction h with
    | refl => exact ⟨trivial, List.nodup_singleton _, ⟨service, hs, rfl⟩, nofun⟩
    | step h hstep ih => exact (ih ho.of_concat).step (h.registry hk fun _ _ hk he => hk.edit he) hstep ho
  refine ⟨hsuccession.linked, ?_, hsuccession.entry, fun y z id u expected new e hstep => ?_⟩
  · rw [hsuccession.linked.map_expected]
    exact (List.Nodup.of_map _ hsuccession.distinct).sublist (List.dropLast_sublist _)
  · generalize he : Event.moved id (.answered (.swap u expected new) (.error e)) = event at hstep
    cases hstep with
    | move hp =>
      obtain ⟨_, rfl⟩ := Event.moved.inj he
      obtain ⟨rfl, hwhy⟩ := hp.answers.swap_error
      exact ⟨rfl, hwhy⟩
    | call | begin | finish | cut | pass => nomatch he

/-- A task that reads an entry and offers a graph as its new snapshot, and does something else if another task was faster. -/
def offering (url : AccessUrl) (graph : Graph) (otherwise : Program Report) : Program Report := do
  match ← Program.request (.service url) with
  | none => return .registered false
  | some service =>
    let new ← Program.request (.snapshot graph)
    match ← Program.request (.swap url service.snapshot new) with
    | .ok _ => return .registered true
    | .error _ => otherwise

/-- Two tasks read the same entry and offer one graph each. The faster one stores its own; the other one reads again then, and offers
another object, though the graph is the same all along. -/
theorem State.Run.succession_two_writers :
    let url : AccessUrl := ⟨"http://host"⟩
    let s : Scheduler := ⟨⟨false, 50⟩, false, [], 1000⟩
    let graph : Graph := ⟨[]⟩
    let writer (id : Nat) (p : Program Report) : Task := ⟨id, .job .round, [], none, p⟩
    let start : State := ⟨{ World.initial (.ofNat 1) with registry := ⟨[(url, .fresh url)]⟩ },
      [writer 0 (offering url graph (.done default)), writer 1 (offering url graph (offering url graph (.done default)))], []⟩
    ∃ es x, State.Run s start es x ∧ Orderly url none es ∧
      .moved 1 (.answered (.swap url none ⟨1, graph⟩) (.error (.snapshotConflict url))) ∈ es ∧
      exchanges url es = [⟨none, none, ⟨0, graph⟩⟩, ⟨some ⟨0, graph⟩, some ⟨0, graph⟩, ⟨2, graph⟩⟩] ∧
      Linked none (exchanges url es) ∧
      ∃ service, x.world.registry.get? url = some service ∧ service.snapshot = some ⟨2, graph⟩ := by
  intro url s graph writer start
  let stored : Service := { Service.fresh url with snapshot := some ⟨0, graph⟩, lastSynced := some 0 }
  let es : List Event := [.moved 0 (.answered (.service url) (some (.fresh url))), .moved 1 (.answered (.service url) (some (.fresh url))),
    .moved 0 (.answered (.snapshot graph) ⟨0, graph⟩), .moved 1 (.answered (.snapshot graph) ⟨1, graph⟩),
    .moved 0 (.answered (.swap url none ⟨0, graph⟩) (.ok none)),
    .moved 1 (.answered (.swap url none ⟨1, graph⟩) (.error (.snapshotConflict url))),
    .moved 1 (.answered (.service url) (some stored)), .moved 1 (.answered (.snapshot graph) ⟨2, graph⟩),
    .moved 1 (.answered (.swap url (some ⟨0, graph⟩) ⟨2, graph⟩) (.ok (some ⟨0, graph⟩)))]
  have hreplay : State.replay s start [.move 0 .go, .move 1 .go, .move 0 .go, .move 1 .go, .move 0 .go, .move 1 .go, .move 1 .go,
      .move 1 .go, .move 1 .go] = some (es, _) := rfl
  have hrun : State.Run s start es _ := State.run_of_replay hreplay
  have hexchanges : exchanges url es = [⟨none, none, ⟨0, graph⟩⟩, ⟨some ⟨0, graph⟩, some ⟨0, graph⟩, ⟨2, graph⟩⟩] := rfl
  -- the places where something is offered, with what was offered there
  have hoffers : ∀ es₁ id expected new a es₂, es = es₁ ++ .moved id (.answered (.swap url expected new) a) :: es₂ →
      es₁ = es.take 4 ∧ id = 0 ∧ expected = none ∧ new = ⟨0, graph⟩ ∨
      es₁ = es.take 5 ∧ id = 1 ∧ expected = none ∧ new = ⟨1, graph⟩ ∨
      es₁ = es.take 8 ∧ id = 1 ∧ expected = some ⟨0, graph⟩ ∧ new = ⟨2, graph⟩ := by
    intro es₁ id expected new a es₂ he
    have hget : es[es₁.length]? = some (.moved id (.answered (.swap url expected new) a)) := by rw [he]; simp
    have htake : es₁ = es.take es₁.length := by rw [he]; simp
    have hlt : es₁.length < es.length := by rw [he]; simp
    generalize es₁.length = n at hget htake hlt
    match n, hlt with
    | 0, _ | 1, _ | 2, _ | 3, _ | 6, _ | 7, _ => nomatch hget
    | 4, _ =>
      cases hget
      exact Or.inl ⟨htake, rfl, rfl, rfl⟩
    | 5, _ =>
      cases hget
      exact Or.inr (Or.inl ⟨htake, rfl, rfl, rfl⟩)
    | 8, _ =>
      cases hget
      exact Or.inr (Or.inr ⟨htake, rfl, rfl, rfl⟩)
  have ho : Orderly url none es := by
    refine ⟨fun es₁ id expected new a es₂ he => ?_, fun es₁ id expected new a es₂ he => ?_, fun id a => by simp [es]⟩
    · rcases hoffers es₁ id expected new a es₂ he with ⟨rfl, rfl, rfl, rfl⟩ | ⟨rfl, rfl, rfl, rfl⟩ | ⟨rfl, rfl, rfl, rfl⟩
      · exact ⟨.fresh url, by simp [es], rfl⟩
      · exact ⟨.fresh url, by simp [es], rfl⟩
      · exact ⟨stored, by simp [es], rfl⟩
    · rcases hoffers es₁ id expected new a es₂ he with ⟨rfl, rfl, rfl, rfl⟩ | ⟨rfl, rfl, rfl, rfl⟩ | ⟨rfl, rfl, rfl, rfl⟩ <;>
        simp [es, exchanges, Event.exchange?, Exchange.stored]
  have hentry : start.world.registry.get? url = some (.fresh url) := rfl
  obtain ⟨hlinked, _, ⟨service, hs, hlast⟩, _⟩ := hrun.succession (Registry.keyed_empty.put (.fresh url)) hentry ho
  exact ⟨es, _, hrun, ho, by simp [es], hexchanges, hlinked, service, hs, hlast.trans (by rw [hexchanges]; rfl)⟩

end CatalogSync.Engine
