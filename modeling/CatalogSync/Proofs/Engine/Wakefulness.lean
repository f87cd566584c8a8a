import Mathlib.Data.List.Nodup
import CatalogSync.Engine.Marking
import CatalogSync.Proofs.Engine.Vigilance

/-!
# No wake-up is lost

All who wait for guards share one signal, which keeps nothing for those who come later. Whoever waits listens before each attempt, so a
release that comes between the attempt and the waiting is heard. Whatever callers do, a mark goes only where its release is about to be
signalled, and so whoever waits unsignalled waits for a URL that is marked, whose guard somebody has (`Session.Run.wakeful`).
-/

namespace CatalogSync.Engine

/-! ## What a move does to the guards -/

/-- Whoever waits for a guard asks for nothing. -/
theorem Program.not_asks_of_vigil {α : Type} {p : Program α} {v : AccessUrl × Vigil} (h : p.vigil? = some v) {r : Request} : ¬p.Asks r := by
  intro ha
  cases ha <;> nomatch h

namespace Move

/-- A move takes a guard and marks its URL, or takes the mark of a guard away, or does neither. -/
theorem live_cases (m : Move) :
    (∃ g, m.taken? = some g ∧ (∀ guards, m.live guards = g :: guards) ∧ ∀ urls, m.marks urls = g.url :: urls) ∨
    (∃ g a, m = .answered (.unmark g) a) ∨
    (∀ guards, m.live guards = guards) ∧ ∀ urls, m.marks urls = urls := by
  cases m with
  | answered r a =>
    cases r with
    | tryMark url =>
      cases a with
      | none => exact Or.inr (Or.inr ⟨fun _ => rfl, fun _ => rfl⟩)
      | some g => exact Or.inl ⟨g, rfl, fun _ => rfl, fun _ => rfl⟩
    | unmark g => exact Or.inr (Or.inl ⟨g, a, rfl⟩)
    | _ => exact Or.inr (Or.inr ⟨fun _ => rfl, fun _ => rfl⟩)
  | took g => exact Or.inl ⟨g, rfl, fun _ => rfl, fun _ => rfl⟩
  | expired | listened | yielded | woken => exact Or.inr (Or.inr ⟨fun _ => rfl, fun _ => rfl⟩)

/-- The guards after a move, part by part, where a mark is taken away only by whoever has its guard. -/
theorem perm_live {m : Move} {own others guards : List Guard} (h : (own ++ others).Perm guards) (hn : guards.Nodup)
    (hu : ∀ g a, m = .answered (.unmark g) a → g ∈ own) : (m.live own ++ others).Perm (m.live guards) := by
  rcases m.live_cases with ⟨g, _, hl, _⟩ | ⟨g, a, rfl⟩ | ⟨hl, _⟩
  · rw [hl, hl]
    exact h.cons g
  · have hothers : others.filter (· ≠ g) = others := by
      refine List.filter_eq_self.2 fun g' hg' => decide_eq_true ?_
      rintro rfl
      exact (List.nodup_append.1 (h.nodup_iff.2 hn)).2.2 g' (hu g' a rfl) g' hg' rfl
    have hfilter := h.filter (· ≠ g)
    rwa [List.filter_append, hothers] at hfilter
  · rw [hl, hl]
    exact h

/-- The marks are the URLs of the guards after a move if they were before. -/
theorem marks_map_url {m : Move} {guards : List Guard} (hn : (guards.map Guard.url).Nodup)
    (hu : ∀ g a, m = .answered (.unmark g) a → g ∈ guards) : m.marks (guards.map Guard.url) = (m.live guards).map Guard.url := by
  rcases m.live_cases with ⟨g, _, hl, hm⟩ | ⟨g, a, rfl⟩ | ⟨hl, hm⟩
  · rw [hl, hm, List.map_cons]
  · refine List.filter_map.trans (congrArg _ (List.filter_congr fun g' hg' => ?_))
    have hiff : g'.url = g.url ↔ g' = g := ⟨fun he => List.inj_on_of_nodup_map hn hg' (hu g a rfl) he, fun he => he ▸ rfl⟩
    simp [hiff]
  · rw [hl, hm]

/-- The marks stay apart from one another if a guard is taken only for a URL without one. -/
theorem marks_nodup {m : Move} {urls : List AccessUrl} (hn : urls.Nodup) (hf : ∀ g, m.taken? = some g → g.url ∉ urls) :
    (m.marks urls).Nodup := by
  rcases m.live_cases with ⟨g, ht, _, hm⟩ | ⟨g, a, rfl⟩ | ⟨_, hm⟩
  · rw [hm]
    exact List.nodup_cons.2 ⟨hf g ht, hn⟩
  · exact hn.filter _
  · rwa [hm]

end Move

namespace Marking

/-! ## The stages of a call -/

/-- How far a call may have come. -/
inductive Stage : Program (Option Guard) → Prop where
  | trying (url : AccessUrl) : Stage (.ask (.tryMark url) .done)
  | waiting (url : AccessUrl) (vigil : Vigil) : Stage (.hold url vigil fun g => .done (some g))
  | leaving (g : Guard) : Stage (.ask (.unmark g) fun _ => .ask .wake fun _ => .done none)
  | waking : Stage (.ask .wake fun _ => .done none)
  | ended (r : Option Guard) : Stage (.done r)

/-- The guards in the hands of a call: the one that it gives, or is about to take the mark of away. -/
def callGuards : Program (Option Guard) → List Guard
  | .done r => r.toList
  | .ask (.unmark g) _ => [g]
  | _ => []

/-- A guard is in the hands of the call that gives it back, from the beginning. -/
theorem callGuards_program (c : Call) : callGuards c.program = match c with | .drop g => [g] | _ => [] := by
  cases c <;> rfl

/-- A call starts at a stage. -/
theorem Call.stage (c : Call) : Stage c.program := by
  cases c with
  | attempt url => exact .trying url
  | await url => exact .waiting url .listen
  | drop g => exact .leaving g

/-- A call listens before it tries the mark. -/
theorem Call.listensFirst (c : Call) : c.program.ListensFirst := by
  cases c with
  | attempt url => exact fun _ => trivial
  | await url => exact ⟨rfl, fun _ => trivial⟩
  | drop g => exact fun _ _ => trivial

namespace Stage

variable {w w' : World} {p p' : Program (Option Guard)} {m : Move}

/-- At every stage a call is poised for its next wait. -/
theorem poised (h : Stage p) : p.Poised := by
  cases h with
  | trying | waking => exact fun _ => trivial
  | leaving => exact fun _ _ => trivial
  | waiting => exact fun _ => trivial
  | ended => trivial

/-- A move takes a call to its next stage, with the guards that the move leaves in its hands. -/
theorem next (h : Stage p) (hm : Program.Step w p m w' p') : Stage p' ∧ callGuards p' = m.live (callGuards p) := by
  cases h with
  | trying url =>
    cases hm with
    | ask ha =>
      rename_i a
      cases a with
      | none => exact ⟨.ended none, rfl⟩
      | some g => exact ⟨.ended (some g), rfl⟩
  | waiting url vigil =>
    cases hm with
    | listen => exact ⟨.waiting url _, rfl⟩
    | take => exact ⟨.ended _, rfl⟩
    | yield => exact ⟨.waiting url _, rfl⟩
    | woken => exact ⟨.waiting url _, rfl⟩
  | leaving g =>
    cases hm with
    | ask ha => exact ⟨.waking, by simp [callGuards, Move.live]⟩
  | waking =>
    cases hm with
    | ask ha => exact ⟨.ended none, rfl⟩
  | ended r => nomatch hm

/-- Whoever takes a mark away has its guard, and goes on to signal the release. -/
theorem unmark (h : Stage p) {g : Guard} {a : Request.Answer (.unmark g)} (hm : Program.Step w p (.answered (.unmark g) a) w' p') :
    callGuards p = [g] ∧ p'.Asks .wake := by
  generalize hmove : Move.answered (.unmark g) a = m at hm
  cases h with
  | leaving g' =>
    cases hm with
    | ask ha =>
      cases hmove
      exact ⟨rfl, .ask⟩
  | trying | waking =>
    cases hm with
    | ask ha => nomatch hmove
  | waiting => cases hm <;> nomatch hmove
  | ended => nomatch hm

/-- Whoever is about to signal a release does so with its next move. -/
theorem wake (h : Stage p) (hw : p.Asks .wake) (hm : Program.Step w p m w' p') : ∃ a, m = .answered .wake a := by
  cases h with
  | waking =>
    cases hm with
    | ask ha => exact ⟨_, rfl⟩
  | trying | waiting | leaving | ended => nomatch hw

/-- Whoever may give up has no guard in hand. -/
theorem interruptible (h : Stage p) (hi : p.Interruptible) : ∃ url heard, p.vigil? = some (url, .wait heard) ∧ callGuards p = [] := by
  cases hi with
  | @request _ r ha hr =>
    cases ha with
    | ask => cases h <;> nomatch hr
    | within => nomatch h
  | wait => exact ⟨_, _, rfl, rfl⟩

end Stage

namespace Session

/-! ## Sessions -/

/-- That a drop took its mark away and has yet to signal the release. -/
def Releasing (x : Session) : Prop := ∃ p ∈ x.calls, p.Asks .wake

/-- A session in which nobody has a guard or asks for one. -/
structure Fresh (x : Session) : Prop where
  held : x.held = []
  calls : x.calls = []
  guards : x.world.guards = []
  inFlight : x.world.inFlight = []

/-- A session in which each guard is in one pair of hands, and each mark has its guard. -/
structure Orderly (x : Session) : Prop where
  stages : ∀ p ∈ x.calls, Stage p
  owners : (x.held ++ x.calls.flatMap callGuards).Perm x.world.guards
  marks : x.world.inFlight = x.world.guards.map Guard.url
  nodup : x.world.inFlight.Nodup

variable {x y : Session}

/-- The calls after a step: one of those before it, a new one, or one that made a move. -/
theorem Step.forall_calls {P : Program (Option Guard) → Prop} (hs : Step x y) (h : ∀ p ∈ x.calls, P p) (start : ∀ c : Call, P c.program)
    (move : ∀ p m p', P p → Program.Step x.world p m y.world p' → P p') : ∀ p ∈ y.calls, P p := by
  cases hs with
  | attempt w held calls url => exact List.forall_mem_append.2 ⟨h, List.forall_mem_singleton.2 (start (.attempt url))⟩
  | await w held calls url => exact List.forall_mem_append.2 ⟨h, List.forall_mem_singleton.2 (start (.await url))⟩
  | drop w before after calls g => exact List.forall_mem_append.2 ⟨h, List.forall_mem_singleton.2 (start (.drop g))⟩
  | move hm =>
    rw [List.forall_mem_append, List.forall_mem_cons] at h ⊢
    exact ⟨h.1, move _ _ _ h.2.1 hm, h.2.2⟩
  | finish | abandon =>
    rw [List.forall_mem_append, List.forall_mem_cons] at h
    exact List.forall_mem_append.2 ⟨h.1, h.2.2⟩

/-- What becomes of a call: it is left alone, it makes a move, it is over, or its caller gives up. -/
theorem Step.call_cases (hs : Step x y) {p : Program (Option Guard)} (hp : p ∈ x.calls) :
    p ∈ y.calls ∨ (∃ m p', Program.Step x.world p m y.world p') ∨ (∃ r, p = .done r) ∨ p.Interruptible := by
  cases hs with
  | attempt | await | drop => exact Or.inl (List.mem_append_left _ hp)
  | move hm =>
    rw [List.mem_append, List.mem_cons] at hp ⊢
    rcases hp with hb | rfl | ha
    · exact Or.inl (Or.inl hb)
    · exact Or.inr (Or.inl ⟨_, _, hm⟩)
    · exact Or.inl (Or.inr (Or.inr ha))
  | finish =>
    rw [List.mem_append, List.mem_cons] at hp
    rcases hp with hb | rfl | ha
    · exact Or.inl (List.mem_append_left _ hb)
    · exact Or.inr (Or.inr (Or.inl ⟨_, rfl⟩))
    · exact Or.inl (List.mem_append_right _ ha)
  | abandon hi =>
    rw [List.mem_append, List.mem_cons] at hp
    rcases hp with hb | rfl | ha
    · exact Or.inl (List.mem_append_left _ hb)
    · exact Or.inr (Or.inr (Or.inr hi))
    · exact Or.inl (List.mem_append_right _ ha)

/-- Every call comes through the stages of a call. -/
theorem Step.stages (hs : Step x y) (h : ∀ p ∈ x.calls, Stage p) : ∀ p ∈ y.calls, Stage p :=
  hs.forall_calls h Call.stage fun _ _ _ hp hm => (hp.next hm).1

/-- Guards in the hands of one call come first or stay in their place. -/
theorem perm_front (a b c d : List Guard) : (a ++ (b ++ (c ++ d))).Perm (c ++ (a ++ b ++ d)) := by
  rw [← List.append_assoc]
  exact List.perm_append_comm_assoc _ _ _

/-! ## What a step preserves -/

/-- Whoever takes a mark away has its guard, and that guard counts. -/
theorem Orderly.mem_guards (h : x.Orderly) {p p' : Program (Option Guard)} {m : Move} {w : World} (hp : p ∈ x.calls)
    (hm : Program.Step x.world p m w p') (g : Guard) (a : Request.Answer (.unmark g)) (he : m = .answered (.unmark g) a) :
    g ∈ callGuards p ∧ g ∈ x.world.guards := by
  subst he
  have hg : g ∈ callGuards p := by simp [((h.stages p hp).unmark hm).1]
  exact ⟨hg, h.owners.subset (List.mem_append_right _ (List.mem_flatMap.2 ⟨p, hp, hg⟩))⟩

/-- There is one live guard for each mark, so none is live twice. -/
theorem Orderly.nodup_guards (h : x.Orderly) : x.world.guards.Nodup := (h.marks ▸ h.nodup).of_map _

/-- The guards after a step are in one pair of hands each. -/
theorem Orderly.owners_step (h : x.Orderly) (hs : Step x y) : (y.held ++ y.calls.flatMap callGuards).Perm y.world.guards := by
  have howners := h.owners
  cases hs with
  | attempt w held calls url | await w held calls url => simpa [callGuards_program] using howners
  | drop w before after calls g =>
    simp only [List.flatMap_append, List.flatMap_singleton, callGuards_program, ← List.append_assoc]
    have hfront : (before ++ after ++ calls.flatMap callGuards ++ [g]).Perm (g :: (before ++ after) ++ calls.flatMap callGuards) :=
      List.perm_append_singleton _ _
    exact hfront.trans ((List.perm_middle.symm.append_right _).trans howners)
  | @move w w' held before after p p' m hm =>
    have hu := h.mem_guards (List.mem_append_right _ List.mem_cons_self) hm
    obtain ⟨-, hnext⟩ := (h.stages p (List.mem_append_right _ List.mem_cons_self)).next hm
    simp only [List.flatMap_append, List.flatMap_cons] at howners ⊢
    have hperm := Move.perm_live ((perm_front _ _ _ _).symm.trans howners) h.nodup_guards fun g a he => (hu g a he).1
    rw [hm.signalled.guards, hnext]
    exact (perm_front _ _ _ _).trans hperm
  | finish w held before after r =>
    simp only [List.flatMap_append, List.flatMap_cons, callGuards] at howners ⊢
    rw [List.append_assoc, ← List.append_assoc held]
    exact (perm_front _ _ _ _).symm.trans howners
  | @abandon w held before after p hi =>
    obtain ⟨_, _, _, hnone⟩ := (h.stages p (List.mem_append_right _ List.mem_cons_self)).interruptible hi
    simpa [hnone] using howners

/-- A step changes guards, marks and the number of releases as the move in it does, if there is one. -/
theorem Step.world_cases (hs : Step x y) :
    y.world = x.world ∨ ∃ p ∈ x.calls, ∃ m, ∃ p' ∈ y.calls, Program.Step x.world p m y.world p' := by
  cases hs with
  | move hm => exact Or.inr ⟨_, List.mem_append_right _ List.mem_cons_self, _, _, List.mem_append_right _ List.mem_cons_self, hm⟩
  | attempt | await | drop | finish | abandon => exact Or.inl rfl

/-- Marks and guards come and go together. -/
theorem Orderly.marks_step (h : x.Orderly) (hs : Step x y) :
    y.world.inFlight = y.world.guards.map Guard.url ∧ y.world.inFlight.Nodup := by
  rcases hs.world_cases with hw | ⟨p, hp, m, p', _, hm⟩
  · rw [hw]
    exact ⟨h.marks, h.nodup⟩
  · have hsig := hm.signalled
    rw [hsig.guards, hsig.inFlight]
    refine ⟨?_, Move.marks_nodup h.nodup fun g hg => (hsig.fresh g hg).2⟩
    rw [h.marks]
    exact Move.marks_map_url (h.marks ▸ h.nodup) fun g a he => (h.mem_guards hp hm g a he).2

/-- No step puts a guard into a second pair of hands, or leaves a mark without one. -/
theorem Orderly.step (h : x.Orderly) (hs : Step x y) : y.Orderly :=
  ⟨hs.stages h.stages, h.owners_step hs, (h.marks_step hs).1, (h.marks_step hs).2⟩

/-- A step counts releases. -/
theorem Step.releases (hs : Step x y) : x.world.releases ≤ y.world.releases := by
  rcases hs.world_cases with hw | ⟨_, _, m, _, _, hm⟩
  · rw [hw]
  · exact hm.signalled.releases ▸ Move.le_released _ m

/-- Where a mark goes, its release is to be signalled. -/
theorem Step.unmarked (hs : Step x y) (hx : x.Orderly) {url : AccessUrl} (hu : url ∈ x.world.inFlight) :
    url ∈ y.world.inFlight ∨ y.Releasing := by
  rcases hs.world_cases with hw | ⟨p, hp, m, p', hp', hm⟩
  · exact Or.inl (hw ▸ hu)
  · rcases m.mem_marks hu with hu | ⟨g, a, rfl⟩
    · exact Or.inl (hm.signalled.inFlight ▸ hu)
    · exact Or.inr ⟨p', hp', ((hx.stages p hp).unmark hm).2⟩

/-- A release that is to be signalled is so still after a step, or was signalled in it. -/
theorem Step.releasing (hs : Step x y) (hx : x.Orderly) (hr : x.Releasing) : y.Releasing ∨ x.world.releases < y.world.releases := by
  obtain ⟨p, hp, hw⟩ := hr
  rcases hs.call_cases hp with hp' | ⟨m, p', hm⟩ | ⟨r, rfl⟩ | hi
  · exact Or.inl ⟨p, hp', hw⟩
  · obtain ⟨a, rfl⟩ := (hx.stages p hp).wake hw hm
    exact Or.inr (hm.signalled.releases ▸ Nat.lt_succ_self _)
  · nomatch hw
  · obtain ⟨_, _, hv, -⟩ := (hx.stages p hp).interruptible hi
    exact absurd hw (Program.not_asks_of_vigil hv)

/-! ## Runs -/

/-- A session that starts fresh is orderly throughout. -/
theorem Run.orderly {start : Session} (h : Run start x) (hf : start.Fresh) : x.Orderly := by
  induction h with
  | refl => exact ⟨by simp [hf.calls], by simp [hf.held, hf.calls, hf.guards], by simp [hf.guards, hf.inFlight], by simp [hf.inFlight]⟩
  | step _ hs ih => exact ih.step hs

/-- Whoever waits in such a session has missed no release. -/
theorem Run.alert {start : Session} (h : Run start x) (hf : start.Fresh) : ∀ p ∈ x.calls, p.Alert x.world x.Releasing := by
  induction h with
  | refl => simp [hf.calls]
  | @step x y h' hs ih =>
    have hx := h'.orderly hf
    have hcalls : ∀ p ∈ y.calls, Stage p ∧ p.Alert y.world y.Releasing := by
      refine hs.forall_calls (fun p hp => ?_) (fun c => ⟨c.stage, c.listensFirst.alert⟩) ?_
      · exact ⟨hx.stages p hp, (ih p hp).keep hs.releases (fun _ hu => hs.unmarked hx hu) (hs.releasing hx)⟩
      · rintro p m p' ⟨hp, halert⟩ hm
        exact ⟨(hp.next hm).1, halert.move hp.poised hm⟩
    exact fun p hp => (hcalls p hp).2

/-- Whatever callers do, whoever waits without having heard of a release waits for a URL that is marked, and somebody has its guard:
a caller, or a call that is to give it to its caller or to take the mark away. -/
theorem Run.wakeful {start : Session} (h : Run start x) (hf : start.Fresh) (hr : ¬x.Releasing) :
    ∀ p ∈ x.calls, ∀ url heard, p.vigil? = some (url, .wait heard) → ¬heard < x.world.releases →
      url ∈ x.world.inFlight ∧ ∃ g : Guard, g.url = url ∧ (g ∈ x.held ∨ ∃ q ∈ x.calls, g ∈ callGuards q) := by
  intro p hp url heard hv hheard
  have hx := h.orderly hf
  have hu : url ∈ x.world.inFlight := (((h.alert hf p hp).wait url heard hv).2.resolve_left hheard).resolve_right hr
  refine ⟨hu, ?_⟩
  rw [hx.marks] at hu
  obtain ⟨g, hg, hgu⟩ := List.mem_map.1 hu
  refine ⟨g, hgu, ?_⟩
  rw [← List.mem_flatMap, ← List.mem_append]
  exact hx.owners.mem_iff.2 hg

/-- A caller waits again because a rival took the mark that was released first. -/
theorem Run.wakeful_overtaken :
    let url : AccessUrl := ⟨"http://twin.example/"⟩
    let start : Session := ⟨World.initial (.ofNat 1), [], []⟩
    let w : World := { World.initial (.ofNat 1) with inFlight := [url], guards := [⟨1, url⟩], guardCount := 2, releases := 1 }
    let p : Program (Option Guard) := .hold url (.wait 1) fun g => .done (some g)
    Run start ⟨w, [⟨1, url⟩], [p]⟩ ∧ start.Fresh ∧ ¬(⟨w, [⟨1, url⟩], [p]⟩ : Session).Releasing ∧
      p.vigil? = some (url, .wait 1) ∧ ¬1 < w.releases ∧ url ∈ w.inFlight ∧
      ∃ g : Guard, g.url = url ∧ (g ∈ [⟨1, url⟩] ∨ ∃ q ∈ [p], g ∈ callGuards q) := by
  intro url start w p
  have hrun : Run start ⟨w, [⟨1, url⟩], [p]⟩ := by
    -- the first caller has the guard, and the second waits for it
    have hfirst : Run start ⟨{ w with guards := [⟨0, url⟩], guardCount := 1, releases := 0 }, [⟨0, url⟩], []⟩ :=
      ((Run.refl.step (.attempt _ _ _ url)).step (@Step.move _ _ _ [] [] _ _ _ (.ask (.world rfl)))).step (.finish _ _ [] [] _)
    have hwaiting : Run start ⟨{ w with guards := [⟨0, url⟩], guardCount := 1, releases := 0 }, [⟨0, url⟩],
        [.hold url (.wait 0) fun g => .done (some g)]⟩ :=
      ((hfirst.step (.await _ _ _ url)).step (@Step.move _ _ _ [] [] _ _ _ .listen)).step
        (@Step.move _ _ _ [] [] _ _ _ (.yield rfl))
    -- the first caller gives it back, and the release is signalled
    have hreleased : Run start ⟨{ w with inFlight := [], guards := [], guardCount := 1 }, [],
        [.hold url (.wait 0) fun g => .done (some g)]⟩ :=
      (((hwaiting.step (.drop _ [] [] _ ⟨0, url⟩)).step (@Step.move _ _ _ [_] [] _ _ _ (.ask (.world rfl)))).step
        (@Step.move _ _ _ [_] [] _ _ _ (.ask (.world rfl)))).step (.finish _ _ [_] [] _)
    -- a third caller takes the mark before the second tries again
    have hovertaken : Run start ⟨w, [⟨1, url⟩], [.hold url (.wait 0) fun g => .done (some g)]⟩ :=
      ((hreleased.step (.attempt _ _ _ url)).step (@Step.move _ _ _ [_] [] _ _ _ (.ask (.world rfl)))).step (.finish _ _ [_] [] _)
    exact ((hovertaken.step (@Step.move _ _ _ [] [] _ _ _ (.woken (by decide)))).step (@Step.move _ _ _ [] [] _ _ _ .listen)).step
      (@Step.move _ _ _ [] [] _ _ _ (.yield rfl))
  have hfresh : start.Fresh := ⟨rfl, rfl, rfl, rfl⟩
  have hreleasing : ¬(⟨w, [⟨1, url⟩], [p]⟩ : Session).Releasing := by
    rintro ⟨q, hq, hw⟩
    rw [List.mem_singleton.1 hq] at hw
    exact Program.not_asks_of_vigil rfl hw
  exact ⟨hrun, hfresh, hreleasing, rfl, by decide, hrun.wakeful hfresh hreleasing p List.mem_cons_self url 1 rfl (by decide)⟩

end Session

end Marking

end CatalogSync.Engine
