import CatalogSync.Proofs.Engine.Reconciliation

/-!
# What rounds of discovery come to

A round discovers through the watched registries one after the other, and each discovery sees its own registry only. So a URL may be
dropped by one registry after another one, which advertises it, had its turn: it is then without an entry until the next round
(`Scheduler.runOnce_leaves_advertised_url`). Apart from that a round brings the services in line with all registries, the next
round registers the URLs that were left out, and the one after that finds nothing to do (`Scheduler.runOnce_converges`).
-/

namespace CatalogSync.Engine

open Discovery

/-! ## Passes one after the other -/

/-- Each registry advertises its list whenever it is asked, and the secret store has every key. -/
def Fetches (lists : AccessUrl → List AccessUrl) : (r : Request) → r.Answer → Prop
  | .advertised registry _, a => a = .ok (lists registry)
  | .resolve _, secret => secret ≠ none
  | _, _ => True

/-- What discoveries through several registries make of the registered services, one after the other. -/
inductive Rounded (lists : AccessUrl → List AccessUrl) : List Watched → Registry → Registry → DiscoveryChanges → Prop where
  | nil (r : Registry) : Rounded lists [] r r .empty
  | cons {x : Watched} {rest : List Watched} {before between after : Registry} {c : DiscoveryChanges} {added gone : List AccessUrl}
    (h : Reconciles x.url x.auth (lists x.url) before between ⟨added, gone⟩) (h' : Rounded lists rest between after c) :
    Rounded lists (x :: rest) before after ⟨added ++ c.toAdd, gone ++ c.toRemove⟩

/-- A registry dropped the URL of a service that came from it, and no registry advertises the URL that has its turn later. -/
def Dropped (lists : AccessUrl → List AccessUrl) (watched : List Watched) (origin : Option AccessUrl) (url : AccessUrl) : Prop :=
  ∃ before x after, watched = before ++ x :: after ∧ (∀ y ∈ before, origin ≠ some y.url) ∧ origin = some x.url ∧
    url ∉ lists x.url ∧ ∀ y ∈ after, url ∉ lists y.url

/-- Every service that came from a watched registry is advertised there. -/
def Clean (lists : AccessUrl → List AccessUrl) (watched : List Watched) (r : Registry) : Prop :=
  ∀ x ∈ watched, ∀ url s, r.get? url = some s → s.origin = some x.url → url ∈ lists x.url

section

variable {lists : AccessUrl → List AccessUrl} {watched rest : List Watched} {x : Watched} {before after r r' : Registry}
  {registry url : AccessUrl} {auth : AuthMethod} {advertised : List AccessUrl} {c : DiscoveryChanges} {origin : Option AccessUrl}

/-! ## What a round makes of the registry -/

/-- Without registries no service is dropped. -/
theorem not_dropped_nil : ¬Dropped lists [] origin url := by
  rintro ⟨before, x, after, h, _⟩
  exact absurd h (by simp)

/-- A service is dropped by the first registry if no later one advertises it, or by a later one. -/
theorem dropped_cons_iff : Dropped lists (x :: rest) origin url ↔
    (origin = some x.url ∧ url ∉ lists x.url ∧ ∀ y ∈ rest, url ∉ lists y.url) ∨ (origin ≠ some x.url ∧ Dropped lists rest origin url) := by
  constructor
  · rintro ⟨before, y, after, h, hbefore, ho, hy, hafter⟩
    cases before with
    | nil =>
      obtain ⟨rfl, rfl⟩ := List.cons.inj h
      exact Or.inl ⟨ho, hy, hafter⟩
    | cons z before =>
      obtain ⟨rfl, rfl⟩ := List.cons.inj h
      obtain ⟨hx, hbefore⟩ := List.forall_mem_cons.1 hbefore
      exact Or.inr ⟨hx, before, y, after, rfl, hbefore, ho, hy, hafter⟩
  · rintro (⟨ho, hx, hrest⟩ | ⟨hx, before, y, after, rfl, hbefore, ho, hy, hafter⟩)
    · exact ⟨[], x, rest, rfl, by simp, ho, hx, hrest⟩
    · exact ⟨x :: before, y, after, rfl, List.forall_mem_cons.2 ⟨hx, hbefore⟩, ho, hy, hafter⟩

/-- A URL is not dropped by a registry that advertises it. -/
theorem not_dropped (h : url ∈ lists registry) : ¬Dropped lists watched (some registry) url := by
  rintro ⟨before, x, after, _, _, ho, hx, _⟩
  exact hx (Option.some.inj ho ▸ h)

/-- A URL without an entry is registered if it is advertised. -/
theorem Discovery.Reconciles.of_none (h : Reconciles registry auth advertised before after c) (hu : before.get? url = none) :
    after.get? url = if url ∈ advertised then some ⟨url, auth, none, none, some registry⟩ else none := by
  have hkept : url ∉ c.toRemove := fun hr => by
    obtain ⟨_, s, hs, _⟩ := (h.mem_toRemove url).1 hr
    rw [hu] at hs
    nomatch hs
  rw [h.entries, if_neg hkept, hu]
  exact if_congr (by simp [h.mem_toAdd, hu]) rfl rfl

/-- An entry goes if it came from the registry and is not advertised; else it stays as it is. -/
theorem Discovery.Reconciles.of_some (h : Reconciles registry auth advertised before after c) {s : Service}
    (hs : before.get? url = some s) :
    after.get? url = if s.origin = some registry ∧ url ∉ advertised then none else some s := by
  have hknown : url ∉ c.toAdd := fun ha => by
    have hnone := ((h.mem_toAdd url).1 ha).2
    rw [hs] at hnone
    nomatch hnone
  rw [h.entries, if_neg hknown, hs]
  exact if_congr (by simp [h.mem_toRemove, hs, and_comm]) rfl rfl

/-- Which URLs have no entry after a round. -/
theorem Rounded.get?_eq_none_iff (h : Rounded lists watched before after c) :
    after.get? url = none ↔ match before.get? url with
      | none => ∀ x ∈ watched, url ∉ lists x.url
      | some s => Dropped lists watched s.origin url := by
  induction h with
  | nil r =>
    cases hr : r.get? url with
    | none => simp
    | some s => simp [not_dropped_nil]
  | @cons x rest before between after c added gone h _ ih =>
    rw [ih]
    cases hb : before.get? url with
    | none =>
      rw [h.of_none hb]
      by_cases hu : url ∈ lists x.url
      · simp [hu, not_dropped hu]
      · simp [hu]
    | some s =>
      rw [h.of_some hb]
      simp only [dropped_cons_iff]
      by_cases ho : s.origin = some x.url
      · by_cases hu : url ∈ lists x.url
        · simp [ho, hu, not_dropped hu]
        · simp [ho, hu]
      · simp [ho]

/-- One pass leaves what is clean clean. -/
theorem Clean.reconciles (h : Clean lists watched before) (hr : Reconciles x.url x.auth (lists x.url) before after c) :
    Clean lists watched after := by
  intro y hy url s hs ho
  cases hb : before.get? url with
  | none =>
    rw [hr.of_none hb] at hs
    split at hs
    · rename_i hu
      obtain rfl := Option.some.inj hs
      exact Option.some.inj ho ▸ hu
    · nomatch hs
  | some s' =>
    rw [hr.of_some hb] at hs
    split at hs
    · nomatch hs
    · obtain rfl := Option.some.inj hs
      exact h y hy url s' hb ho

/-- So do the passes of a round. -/
theorem Clean.rounded {watched' : List Watched} (h : Clean lists watched' before) (hr : Rounded lists watched before after c) :
    Clean lists watched' after := by
  induction hr with
  | nil => exact h
  | cons hr _ ih => exact ih (h.reconciles hr)

/-- After a round every service that came from a watched registry is advertised there. -/
theorem Rounded.clean (h : Rounded lists watched before after c) : Clean lists watched after := by
  induction h with
  | nil => exact fun x hx => absurd hx List.not_mem_nil
  | @cons x rest before between after c added gone h h' ih =>
    have hx : Clean lists [x] between := by
      intro y hy url s hs ho
      obtain rfl := List.mem_singleton.1 hy
      exact h.settled.advertised url s hs ho
    intro y hy
    rcases List.mem_cons.1 hy with rfl | hy
    · exact (hx.rounded h') y (List.mem_singleton_self y)
    · exact ih y hy

/-- Where every service that came from a watched registry is advertised there, a round unregisters nothing, and it registers what is
advertised and not known. -/
theorem Clean.changes (h : Clean lists watched before) (hr : Rounded lists watched before after c) :
    c.toRemove = [] ∧ ∀ url, url ∈ c.toAdd ↔ before.get? url = none ∧ ∃ x ∈ watched, url ∈ lists x.url := by
  induction hr with
  | nil r => exact ⟨rfl, fun url => by simp [ChangeSet.empty]⟩
  | @cons x rest before between after c added gone hr hr' ih =>
    obtain ⟨hx, hrest⟩ := List.forall_mem_cons.1 h
    obtain ⟨hgone', hadded'⟩ := ih (Clean.reconciles hrest hr)
    have hgone : gone = [] := List.eq_nil_iff_forall_not_mem.2 fun url hu => by
      obtain ⟨ha, s, hs, ho⟩ := (hr.mem_toRemove url).1 hu
      exact ha (hx url s hs ho)
    refine ⟨by rw [hgone, hgone']; rfl, fun url => ?_⟩
    have hadded : url ∈ added ↔ url ∈ lists x.url ∧ before.get? url = none := hr.mem_toAdd url
    rw [List.mem_append, hadded, hadded']
    cases hb : before.get? url with
    | none =>
      rw [hr.of_none hb]
      by_cases hu : url ∈ lists x.url <;> simp [hu]
    | some s =>
      have hkept : ¬(s.origin = some x.url ∧ url ∉ lists x.url) := fun ⟨ho, hu⟩ => hu (hx url s hb ho)
      rw [hr.of_some hb, if_neg hkept]
      simp

/-- Whether a registry is clean is a matter of URLs and origins. -/
theorem Clean.of_sameOrigins (h : Clean lists watched r) (hr : SameOrigins r r') : Clean lists watched r' := by
  intro x hx url s hs ho
  obtain ⟨s', hs', hso⟩ := hr.of_some hs
  exact h x hx url s' hs' (hso.trans ho)

/-- Where every service that came from a watched registry is advertised there, none of them is dropped. -/
theorem Clean.not_dropped (h : Clean lists watched r) {s : Service} (hs : r.get? url = some s) :
    ¬Dropped lists watched s.origin url := by
  rintro ⟨before, x, after, rfl, _, ho, hx, _⟩
  exact hx (h x (List.mem_append_right _ List.mem_cons_self) url s hs ho)

/-- A round that registers and unregisters nothing leaves the entries as they are. -/
theorem Rounded.get?_of_empty (h : Rounded lists watched before after c) (hc : c = .empty) (url : AccessUrl) :
    after.get? url = before.get? url := by
  induction h with
  | nil => rfl
  | @cons x rest before between after c added gone h _ ih =>
    obtain ⟨hadded, hgone⟩ := ChangeSet.mk.inj hc
    obtain ⟨rfl, hadded⟩ := List.append_eq_nil_iff.1 hadded
    obtain ⟨rfl, hgone⟩ := List.append_eq_nil_iff.1 hgone
    have hc : c = .empty := by
      obtain ⟨_, _⟩ := c
      exact congrArg₂ ChangeSet.mk hadded hgone
    rw [ih hc, h.entries]
    simp

end

section

variable {lists : AccessUrl → List AccessUrl} {free : Prop} {watched : List Watched} {l : Log}

/-! ## The program of a round -/

/-- With all lists advertised and all secrets there, nothing hinders a pass. -/
theorem not_hindered_of_fetches {registry : AccessUrl} {auth : AuthMethod} {e : SyncError} :
    ¬Hindered (Fetches lists) registry auth e := by
  rintro (h | h)
  · exact h rfl
  · nomatch h

/-- A round in which every registry can be asked goes from registry to registry. -/
theorem alone_discoverAll (hd : l.world.registry.Distinct) (hfree : free → l.world.inFlight = []) :
    (Scheduler.discoverAll watched).Meets (alone (Fetches lists) free) l fun _ l' =>
      l'.world.inFlight = l.world.inFlight ∧ l'.world.registry.Distinct ∧ ∃ ds, l'.deeds = l.deeds ++ ds ∧
      Rounded lists watched l.world.registry l'.world.registry (Deed.changes ds) := by
  induction watched generalizing l with
  | nil => exact ⟨rfl, hd, [], (List.append_nil _).symm, .nil _⟩
  | cons x rest ih =>
    refine (alone_discover x.url x.auth hd hfree).seq ?_
    rintro (e | ⟨added, gone⟩) l₁ ⟨hf₁, h₁⟩
    · exact absurd h₁.1 not_hindered_of_fetches
    · obtain ⟨h₁, headers, advertised, ha, hr⟩ := h₁
      obtain rfl : advertised = lists x.url := Except.ok.inj ha
      obtain ⟨ds₁, hds₁, hc₁⟩ := h₁.deeds
      refine (ih (h₁.distinct hd) fun hf => hf₁.trans (hfree hf)).mono ?_
      rintro ⟨⟩ l₂ ⟨hf₂, hd₂, ds₂, hds₂, h₂⟩
      refine ⟨hf₂.trans hf₁, hd₂, ds₁ ++ ds₂, by rw [hds₂, hds₁, List.append_assoc], ?_⟩
      rw [Deed.changes_append, hc₁]
      exact .cons hr h₂

/-- The passes of a round begin with no wait under way. -/
theorem awake_discoverAll : (Scheduler.discoverAll watched).Awake := by
  induction watched with
  | nil => trivial
  | cons x rest ih => exact awake_discover.bind fun _ => ih

/-- What a round of discoveries that nobody disturbs did. -/
theorem discoverAll_rounds {w w' : World} {ds : List Deed} (hd : w.registry.Distinct)
    (h : (Scheduler.discoverAll watched).Works World.Passes w ds w' (.done ())) (hn : ∀ d ∈ ds, d.move.Given (Fetches lists)) :
    Rounded lists watched w.registry w'.registry (Deed.changes ds) ∧ w'.registry.Distinct := by
  have hmeets : (Scheduler.discoverAll watched).Meets (alone (Fetches lists) (w.inFlight = [])) ⟨[], w⟩ _ :=
    alone_discoverAll hd fun hf => hf
  obtain ⟨_, hd', ds', hds, hr⟩ := (hmeets.works_alone h hn).1
  obtain rfl : ds = ds' := by simpa using hds
  exact ⟨hr, hd'⟩

end

/-! ## Rounds that nobody disturbs -/

/-- Whether the answer in a move is one of those that are given where every registry can be asked. -/
def Move.fetches (lists : AccessUrl → List AccessUrl) : Move → Bool
  | answered (.advertised registry _) (.ok urls) => decide (urls = lists registry)
  | answered (.advertised _ _) (.error _) => false
  | answered (.resolve _) secret => secret.isSome
  | _ => true

/-- What the test of a move accepts is an answer that is given. -/
theorem Move.given_of_fetches {lists : AccessUrl → List AccessUrl} {m : Move} (h : m.fetches lists = true) :
    m.Given (Fetches lists) := by
  cases m with
  | answered r a =>
    cases r with
    | advertised registry headers =>
      cases a with
      | ok urls => exact congrArg Except.ok (of_decide_eq_true h)
      | error e => nomatch h
    | resolve name => exact Option.isSome_iff_ne_none.1 h
    | _ => trivial
  | _ => trivial

/-- Cues lead through a round in which every registry can be asked. -/
theorem exists_round {watched : List Watched} (lists : AccessUrl → List AccessUrl) {w : World} {cues : List (Nat × Cue)} {r : Registry}
    {c : DiscoveryChanges} (h : ((Scheduler.discoverAll watched).work? w cues).map (fun x =>
      (x.1.all fun d => d.move.fetches lists, x.2.1.registry, Deed.changes x.1, x.2.2.value?)) = some (true, r, c, some ())) :
    ∃ ds w', (Scheduler.discoverAll watched).Works World.Passes w ds w' (.done ()) ∧ (∀ d ∈ ds, d.move.Given (Fetches lists)) ∧
      w'.registry = r ∧ Deed.changes ds = c := by
  obtain ⟨ds, w', q, hw, hx⟩ := Program.exists_works (R := World.Passes) (fun ds w' x =>
    (ds.all fun d => d.move.fetches lists, w'.registry, Deed.changes ds, x)) h fun v n => ⟨n, rfl⟩
  obtain ⟨hn, hr, hc, hq⟩ : _ ∧ _ ∧ _ ∧ _ := by simpa only [Prod.mk.injEq] using hx
  obtain rfl := Program.eq_done_of_value? hq
  exact ⟨ds, w', hw, fun d hd => Move.given_of_fetches (List.all_eq_true.1 hn d hd), hr, hc⟩

/-- The part of a round that comes after discovery. -/
def Scheduler.tickAll : Program (List (AccessUrl × TickOutcome)) := do
  finishTicks (← startTicks (← Program.request .services))

/-- A round begins with discoveries, which are never stuck if nobody disturbs them. If every registry can be asked, an advertised URL is
registered after them, unless the URL had been registered through a watched registry which does not advertise it any more, and no
registry advertises it that has its turn later; and every service that came from a watched registry is advertised there. The discoveries
of another round with the same lists unregister nothing, and register just those advertised URLs that the first ones left out; and those
of a third round do nothing at all. -/
theorem Scheduler.runOnce_converges {s : Scheduler} (hs : s.discovery = true) {w : World} (hd : w.registry.Distinct)
    (lists : AccessUrl → List AccessUrl) :
    s.runOnce = (discoverAll s.watched >>= fun _ => tickAll) ∧
    (w.inFlight = [] → ∀ ds v q, (discoverAll s.watched).Works World.Passes w ds v q → (∀ d ∈ ds, d.move.Given (Fetches lists)) →
      (∃ r, q = .done r) ∨ ∃ m v' q', Program.Step v q m v' q') ∧
    ∀ ds w', (discoverAll s.watched).Works World.Passes w ds w' (.done ()) → (∀ d ∈ ds, d.move.Given (Fetches lists)) →
      (∀ x ∈ s.watched, ∀ url ∈ lists x.url, w'.registry.get? url = none ↔
        ∃ service, w.registry.get? url = some service ∧ Dropped lists s.watched service.origin url) ∧
      Clean lists s.watched w'.registry ∧ w'.registry.Distinct ∧
      ∀ w₁ ds₁ w₂, w₁.registry.Distinct → SameOrigins w'.registry w₁.registry →
        (discoverAll s.watched).Works World.Passes w₁ ds₁ w₂ (.done ()) → (∀ d ∈ ds₁, d.move.Given (Fetches lists)) →
        (Deed.changes ds₁).toRemove = [] ∧
        (∀ url, url ∈ (Deed.changes ds₁).toAdd ↔ w'.registry.get? url = none ∧ ∃ x ∈ s.watched, url ∈ lists x.url) ∧
        w₂.registry.Distinct ∧
        ∀ w₃ ds₂ w₄, w₃.registry.Distinct → SameOrigins w₂.registry w₃.registry →
          (discoverAll s.watched).Works World.Passes w₃ ds₂ w₄ (.done ()) → (∀ d ∈ ds₂, d.move.Given (Fetches lists)) →
          Deed.changes ds₂ = .empty ∧ ∀ url, w₄.registry.get? url = w₃.registry.get? url := by
  refine ⟨by rw [runOnce, if_pos hs]; rfl, fun hfree ds v q h hn => ?_, fun ds w' h hn => ?_⟩
  · have hmeets : (discoverAll s.watched).Meets (alone (Fetches lists) (w.inFlight = [])) ⟨[], w⟩ _ :=
      alone_discoverAll hd fun hf => hf
    exact hmeets.never_stuck awake_discoverAll hfree h hn
  obtain ⟨hr, hd'⟩ := discoverAll_rounds hd h hn
  refine ⟨fun x hx url hu => ?_, hr.clean, hd', fun w₁ ds₁ w₂ hd₁ ho h₁ hn₁ => ?_⟩
  · rw [hr.get?_eq_none_iff]
    cases hentry : w.registry.get? url with
    | none => exact ⟨fun hnone => absurd hu (hnone x hx), nofun⟩
    | some service => simp
  obtain ⟨hr₁, hd₂⟩ := discoverAll_rounds hd₁ h₁ hn₁
  have hclean₁ : Clean lists s.watched w₁.registry := hr.clean.of_sameOrigins ho
  obtain ⟨hgone, hadded⟩ := hclean₁.changes hr₁
  refine ⟨hgone, fun url => by rw [hadded, ho.get?_eq_none_iff], hd₂, fun w₃ ds₂ w₄ hd₃ ho₂ h₂ hn₂ => ?_⟩
  obtain ⟨hr₂, _⟩ := discoverAll_rounds hd₃ h₂ hn₂
  obtain ⟨hgone₂, hadded₂⟩ := (hr₁.clean.of_sameOrigins ho₂).changes hr₂
  -- whatever is advertised was registered by now
  have hadd : (Deed.changes ds₂).toAdd = [] := List.eq_nil_iff_forall_not_mem.2 fun url hu => by
    obtain ⟨hnone, x, hx, hl⟩ := (hadded₂ url).1 hu
    have hleft := hr₁.get?_eq_none_iff.1 (ho₂.get?_eq_none_iff.1 hnone)
    cases hentry : w₁.registry.get? url with
    | none =>
      rw [hentry] at hleft
      exact hleft x hx hl
    | some service =>
      rw [hentry] at hleft
      exact hclean₁.not_dropped hentry hleft
  have hempty : Deed.changes ds₂ = .empty := congrArg₂ ChangeSet.mk hadd hgone₂
  exact ⟨hempty, hr₂.get?_of_empty hempty⟩

/-- Three rounds, where a service that came from one registry is advertised by another one that has its turn before. -/
theorem Scheduler.runOnce_converges_moved_service :
    let url : AccessUrl := ⟨"http://host"⟩
    let first : Watched := ⟨⟨"http://first"⟩, .none⟩
    let second : Watched := ⟨⟨"http://second"⟩, .none⟩
    let lists : AccessUrl → List AccessUrl := fun registry => if registry = first.url then [url] else []
    let w : World := { World.initial (.ofNat 1) with registry := ⟨[(url, (Service.fresh url).withOrigin second.url)]⟩ }
    let w₁ : World := { w with registry := .empty }
    let w₃ : World := { w with registry := ⟨[(url, (Service.fresh url).withOrigin first.url)]⟩ }
    ∃ ds w' ds₁ w₂ ds₂ w₄, (discoverAll [first, second]).Works World.Passes w ds w' (.done ()) ∧
      (∀ d ∈ ds, d.move.Given (Fetches lists)) ∧ w'.registry = w₁.registry ∧
      (discoverAll [first, second]).Works World.Passes w₁ ds₁ w₂ (.done ()) ∧
      (∀ d ∈ ds₁, d.move.Given (Fetches lists)) ∧ w₂.registry = w₃.registry ∧
      (discoverAll [first, second]).Works World.Passes w₃ ds₂ w₄ (.done ()) ∧
      (∀ d ∈ ds₂, d.move.Given (Fetches lists)) ∧
      (∃ s, w.registry.get? url = some s ∧ Dropped lists [first, second] s.origin url) ∧
      url ∈ (Deed.changes ds₁).toAdd ∧ Deed.changes ds₂ = .empty := by
  intro url first second lists w w₁ w₃
  have hd : w.registry.Distinct := Registry.distinct_empty.edit (.put ((Service.fresh url).withOrigin second.url))
  let stale : List (Nat × Cue) := [(0, .advertised (.ok [url])), (0, .go), (0, .go), (0, .advertised (.ok [])), (0, .go), (0, .go),
    (0, .go), (0, .go), (0, .go), (0, .go)]
  let settled : List (Nat × Cue) := [(0, .advertised (.ok [url])), (0, .go), (0, .go), (0, .advertised (.ok [])), (0, .go)]
  obtain ⟨ds, w', hw, hn, hr, _⟩ := exists_round lists (r := w₁.registry) (c := ⟨[], [url]⟩)
    (by cbv : ((discoverAll [first, second]).work? w stale).map _ = _)
  obtain ⟨ds₁, w₂, hw₁, hn₁, hr₁, hc₁⟩ := exists_round lists (r := w₃.registry) (c := ⟨[url], []⟩)
    (by cbv : ((discoverAll [first, second]).work? w₁ settled).map _ = _)
  obtain ⟨ds₂, w₄, hw₂, hn₂, _⟩ := exists_round lists (r := w₃.registry) (c := .empty)
    (by cbv : ((discoverAll [first, second]).work? w₃ settled).map _ = _)
  have hlisted : url ∈ lists first.url := by simp [lists]
  have hfirst : first ∈ [first, second] := List.mem_cons_self
  obtain ⟨_, _, hround⟩ := Scheduler.runOnce_converges (s := ⟨⟨false, 50⟩, true, [first, second], 1000⟩) rfl hd lists
  obtain ⟨hleft, _, hd', hagain⟩ := hround ds w' hw hn
  have hnone : w'.registry.get? url = none := by rw [hr]; rfl
  obtain ⟨_, hadded, hd₂, hthird⟩ := hagain w₁ ds₁ w₂ (hr ▸ hd') (fun _ => by rw [hr]) hw₁ hn₁
  obtain ⟨hempty, _⟩ := hthird w₃ ds₂ w₄ (hr₁ ▸ hd₂) (fun _ => by rw [hr₁]) hw₂ hn₂
  exact ⟨ds, w', ds₁, w₂, ds₂, w₄, hw, hn, hr, hw₁, hn₁, hr₁, hw₂, hn₂, (hleft first hfirst url hlisted).1 hnone,
    (hadded url).2 ⟨hnone, first, hfirst, hlisted⟩, hempty⟩

/-- A service came from a registry that does not advertise it any more, but another one does that has its turn before. The first round
takes the service out, and the second one registers it. -/
theorem Scheduler.runOnce_leaves_advertised_url :
    let url : AccessUrl := ⟨"http://host"⟩
    let first : Watched := ⟨⟨"http://first"⟩, .none⟩
    let second : Watched := ⟨⟨"http://second"⟩, .none⟩
    let lists : AccessUrl → List AccessUrl := fun registry => if registry = first.url then [url] else []
    let w : World := { World.initial (.ofNat 1) with registry := ⟨[(url, (Service.fresh url).withOrigin second.url)]⟩ }
    let w₁ : World := { w with registry := .empty }
    let w₃ : World := { w with registry := ⟨[(url, (Service.fresh url).withOrigin first.url)]⟩ }
    ∃ ds w' ds₁ w₂, (discoverAll [first, second]).Works World.Passes w ds w' (.done ()) ∧
      (∀ d ∈ ds, d.move.Given (Fetches lists)) ∧ url ∈ lists first.url ∧ w'.registry = w₁.registry ∧
      w'.registry.get? url = none ∧ (discoverAll [first, second]).Works World.Passes w₁ ds₁ w₂ (.done ()) ∧
      (∀ d ∈ ds₁, d.move.Given (Fetches lists)) ∧ Deed.changes ds₁ = ⟨[url], []⟩ ∧ w₂.registry = w₃.registry := by
  intro url first second lists w w₁ w₃
  let stale : List (Nat × Cue) := [(0, .advertised (.ok [url])), (0, .go), (0, .go), (0, .advertised (.ok [])), (0, .go), (0, .go),
    (0, .go), (0, .go), (0, .go), (0, .go)]
  let settled : List (Nat × Cue) := [(0, .advertised (.ok [url])), (0, .go), (0, .go), (0, .advertised (.ok [])), (0, .go)]
  obtain ⟨ds, w', hw, hn, hr, _⟩ := exists_round lists (r := w₁.registry) (c := ⟨[], [url]⟩)
    (by cbv : ((discoverAll [first, second]).work? w stale).map _ = _)
  obtain ⟨ds₁, w₂, hw₁, hn₁, hr₁, hc₁⟩ := exists_round lists (r := w₃.registry) (c := ⟨[url], []⟩)
    (by cbv : ((discoverAll [first, second]).work? w₁ settled).map _ = _)
  have hnone : w'.registry.get? url = none := by rw [hr]; rfl
  exact ⟨ds, w', ds₁, w₂, hw, hn, by simp [lists], hr, hnone, hw₁, hn₁, hc₁, hr₁⟩

end CatalogSync.Engine
