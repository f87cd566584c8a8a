import CatalogSync.Pipeline.Step
import CatalogSync.Proofs.Pipeline.Merging
import Mathlib.Data.List.Forall2
import Mathlib.Data.List.Induction
import Mathlib.Logic.Relation

/-!
# Gathered outcomes

A step on a collection starts its inner step on all elements at once and goes on when every one of them has ended, with the outcomes
in the order of the elements. In which order the applications take their turns, and so in which order they end, shows in nothing but
the outcomes themselves (`Working.Comes.ends`). What a feeder and a zipper make of the same outcomes agrees but for the way in which
they keep contents: the feeder in a list, the zipper by key, where the last element with a content counts (`Step.lookup_ofPairs`).
-/

namespace CatalogSync

/-! ## Work that goes on side by side -/

/-- Work that is done in turns, on a state that it shares with others, and that ends in a result. -/
structure Working (σ π ρ : Type) where
  /-- That work, taken up in a state, gets in one turn to other work in another state. -/
  turn : σ → π → σ → π → Prop
  /-- The result of work that has ended. -/
  result? : π → Option ρ

namespace Working

variable {σ π ρ : Type} (M : Working σ π ρ)

/-- That work that has not ended leads in one turn to what is left of it. -/
def Leads (p q : π) : Prop := M.result? p = none ∧ ∃ x y, M.turn x p y q

/-- Work that was started together goes on in turns, in any order; before each turn others may change the state. -/
inductive Gathers (R : σ → σ → Prop) (x : σ) (ps : List π) : σ → List π → Prop
  | start : Gathers R x ps x ps
  | turn {y z u : σ} {before after : List π} {p q : π} (h : Gathers R x ps y (before ++ p :: after)) (hr : R y z)
      (hp : M.result? p = none) (ht : M.turn z p u q) : Gathers R x ps u (before ++ q :: after)

/-- That work that was started together comes to results, in the order of the work. -/
def Comes (R : σ → σ → Prop) (x : σ) (ps : List π) (y : σ) (rs : List ρ) : Prop :=
  ∃ qs, M.Gathers R x ps y qs ∧ List.Forall₂ (fun q r => M.result? q = some r) qs rs

/-- That work may end in a result. -/
def Ends (p : π) (r : ρ) : Prop := ∃ q, Relation.ReflTransGen M.Leads p q ∧ M.result? q = some r

/-- That work, as often as it is taken up, ends after some turns. -/
structure Sure (p : π) : Prop where
  acc : Acc (fun q p => M.Leads p q) p
  turn : ∀ q, Relation.ReflTransGen M.Leads p q → M.result? q = none → ∀ x, ∃ y r, M.turn x q y r

/-- That one of several pieces of work, which has not ended, is a turn further, and the others are as they were. -/
def Ahead (qs ps : List π) : Prop := ∃ before p q after, ps = before ++ p :: after ∧ qs = before ++ q :: after ∧ M.Leads p q

variable {M} {R : σ → σ → Prop} {x y : σ} {ps qs : List π} {rs : List ρ}

/-- Each piece of work goes its own way. -/
theorem Gathers.leads (h : M.Gathers R x ps y qs) : List.Forall₂ (Relation.ReflTransGen M.Leads) ps qs := by
  induction h with
  | start => exact List.forall₂_same.2 fun _ _ => .refl
  | @turn y z u before after p q h _ hp ht ih =>
    clear h
    induction before generalizing ps with
    | nil =>
      cases ih with
      | cons hl ih => exact .cons (hl.tail ⟨hp, z, u, ht⟩) ih
    | cons p' before ihb =>
      cases ih with
      | cons hl ih => exact .cons hl (ihb ih)

/-- Gathered results are such as each piece of work may end in. -/
theorem Comes.ends (h : M.Comes R x ps y rs) : List.Forall₂ M.Ends ps rs := by
  obtain ⟨qs, hg, hq⟩ := h
  have hl := hg.leads
  clear hg
  induction hq generalizing ps with
  | nil =>
    cases hl
    exact .nil
  | cons hr _ ih =>
    cases hl with
    | cons hp hl => exact .cons ⟨_, hp, hr⟩ (ih hl)

theorem Gathers.trans {z : σ} {qs' : List π} (h : M.Gathers R x ps y qs) (h' : M.Gathers R y qs z qs') : M.Gathers R x ps z qs' := by
  induction h' with
  | start => exact h
  | turn _ hr hp ht ih => exact ih.turn hr hp ht

/-- Work goes on beside other work, which has no turn meanwhile. -/
theorem Gathers.beside (h : M.Gathers R x ps y qs) (left right : List π) :
    M.Gathers R x (left ++ (ps ++ right)) y (left ++ (qs ++ right)) := by
  induction h with
  | start => exact .start
  | @turn y z u before after p q _ hr hp ht ih =>
    have hbeside (p : π) : left ++ (before ++ p :: after ++ right) = left ++ before ++ p :: (after ++ right) := by simp
    rw [hbeside] at ih ⊢
    exact ih.turn hr hp ht

/-- Work that is done one piece after the other is done together. -/
theorem Comes.cons {p : π} {r : ρ} {z : σ} (hp : M.Comes R x [p] y [r]) (hps : M.Comes R y ps z rs) :
    M.Comes R x (p :: ps) z (r :: rs) := by
  obtain ⟨_, hg, hq⟩ := hp
  obtain ⟨qs, hgs, hqs⟩ := hps
  cases hq with
  | @cons q _ _ _ hq hnil =>
    cases hnil
    have hrest : M.Gathers R y (q :: ps) z (q :: qs) := by simpa using hgs.beside [q] []
    exact ⟨q :: qs, (hg.beside [] ps).trans hrest, .cons hq hqs⟩

/-- Where the result of each piece of work is settled, it does not matter in which order they end. -/
theorem Comes.eq_map {α : Type} {start : α → π} {f : α → ρ} {items : List α} (h : M.Comes R x (items.map start) y rs)
    (hf : ∀ a ∈ items, ∀ r, M.Ends (start a) r → r = f a) : rs = items.map f := by
  have he := h.ends
  clear h
  induction items generalizing rs with
  | nil =>
    cases he
    rfl
  | cons a items ih =>
    cases he with
    | cons hr he =>
      obtain ⟨hfa, hf⟩ := List.forall_mem_cons.1 hf
      rw [List.map_cons, hfa _ hr, ih hf he]

/-- One more piece of work that does not go on for ever. -/
theorem acc_ahead_cons {p : π} (hp : Acc (fun q p => M.Leads p q) p) (hps : Acc M.Ahead ps) : Acc M.Ahead (p :: ps) := by
  induction hp generalizing ps with
  | intro p _ ihp =>
    induction hps with
    | intro ps hacc ihps =>
      refine .intro _ fun qs ⟨before, p', q, after, hp', hq, hl⟩ => ?_
      rcases before with _ | ⟨b, before⟩
      · obtain ⟨rfl, rfl⟩ := List.cons.inj hp'
        exact hq ▸ ihp q hl (.intro _ hacc)
      · obtain ⟨rfl, rfl⟩ := List.cons.inj hp'
        exact hq ▸ ihps _ ⟨before, p', q, after, rfl, rfl, hl⟩

/-- Work none of which goes on for ever does not go on for ever together. -/
theorem acc_ahead (h : ∀ p ∈ ps, Acc (fun q p => M.Leads p q) p) : Acc M.Ahead ps := by
  induction ps with
  | nil => exact .intro _ fun _ ⟨_, _, _, _, hps, _⟩ => absurd hps (by simp)
  | cons p ps ih =>
    obtain ⟨hp, hps⟩ := List.forall_mem_cons.1 h
    exact acc_ahead_cons hp (ih hps)

/-- Either all work has ended, or some has not. -/
theorem exists_results_or (qs : List π) : (∃ rs, List.Forall₂ (fun q r => M.result? q = some r) qs rs) ∨
    ∃ before q after, qs = before ++ q :: after ∧ M.result? q = none := by
  induction qs with
  | nil => exact Or.inl ⟨[], .nil⟩
  | cons q qs ih =>
    cases hq : M.result? q with
    | none => exact Or.inr ⟨[], q, qs, rfl, hq⟩
    | some r =>
      rcases ih with ⟨rs, hrs⟩ | ⟨before, q', after, rfl, hn⟩
      · exact Or.inl ⟨r :: rs, .cons hq hrs⟩
      · exact Or.inr ⟨q :: before, q', after, rfl, hn⟩

/-- Until all of the work has ended, some of it can take the next turn, if each piece is sure to end. -/
theorem Gathers.comes_or_turn (h : M.Gathers R x ps y qs) (hs : ∀ p ∈ ps, M.Sure p) : (∃ rs, M.Comes R x ps y rs) ∨
    ∃ before q after, qs = before ++ q :: after ∧ M.result? q = none ∧ ∀ z, ∃ u q', M.turn z q u q' := by
  rcases exists_results_or (M := M) qs with ⟨rs, hrs⟩ | ⟨before, q, after, rfl, hn⟩
  · exact Or.inl ⟨rs, qs, h, hrs⟩
  · refine Or.inr ⟨before, q, after, rfl, hn, fun z => ?_⟩
    have hmem : ∃ p ∈ ps, Relation.ReflTransGen M.Leads p q := by
      have hl := h.leads
      clear h hs
      induction before generalizing ps with
      | nil =>
        cases hl with
        | cons hl _ => exact ⟨_, List.mem_cons_self, hl⟩
      | cons b before ih =>
        cases hl with
        | cons _ hl =>
          obtain ⟨p, hp, hpq⟩ := ih hl
          exact ⟨p, List.mem_cons_of_mem _ hp, hpq⟩
    obtain ⟨p, hp, hpq⟩ := hmem
    exact (hs p hp).turn q hpq hn z

end Working

namespace Step

open Outcome

variable {m : Type → Type} [Monad m] {α β κ : Type} [BEq κ]

/-! ## What feeders and zippers make of outcomes -/

/-- What a feeder makes of outcomes that were gathered, given the name of the inner step: it feeds a step that hands them on. -/
def fed (name : String) (rs : List (Outcome β)) : Outcome (List β) := (feeder (ofFn (m := Id) name id)).apply rs

/-- What a zipper makes of elements and their outcomes that were gathered, given the name of the inner step and the key. -/
def zipped (name : String) (key : α → κ) (xs : List (α × Outcome β)) : Outcome (List (κ × β)) :=
  (zipper (ofFn (m := Id) name Prod.snd) fun x => key x.1).apply xs

/-- The content that an element has under a key. -/
def contentAt (key : α → κ) (c : κ) (x : α × Outcome β) : Option β := if c == key x.1 then x.2.content? else none

/-- A feeder merges what its items came to, under its own name. -/
theorem fed_eq (name : String) (rs : List (Outcome β)) : fed name rs = merge (rs.map (·.attributedTo name)) := by
  have h : rs.mapM (m := Id) (pure ∘ id) = rs.map id := List.mapM_pure
  rw [List.map_id] at h
  exact congrArg (fun rs => merge (rs.map (·.attributedTo name))) h

/-- A zipper merges it too, and makes pairs of keys and contents of it, a later pair taking the place of an earlier one. -/
theorem zipped_eq (name : String) (key : α → κ) (xs : List (α × Outcome β)) :
    zipped name key xs = (merge (xs.map fun x => (x.2.map fun b => (key x.1, b)).attributedTo name)).map ofPairs := by
  have h : xs.mapM (m := Id) (fun x => pure ((x.2.map fun b => (key x.1, b)).attributedTo name)) = _ := List.mapM_pure
  exact congrArg (fun rs => (merge rs).map ofPairs) h

/-- Results that are put together with their elements one after the other may be so all at the end. -/
theorem mapM_zip [LawfulMonad m] {γ δ : Type} (f : α → m γ) (g : α × γ → δ) (items : List α) :
    (items.mapM fun a => return g (a, ← f a)) = (fun rs => (items.zip rs).map g) <$> items.mapM f := by
  induction items with
  | nil => simp
  | cons a items ih =>
    rw [List.mapM_cons, List.mapM_cons, map_bind, bind_assoc]
    refine bind_congr fun r => ?_
    rw [pure_bind, ih]
    simp

/-- A feeder whose inner step is applied to the elements in order makes of the outcomes what it makes of gathered ones. -/
theorem apply_feeder [LawfulMonad m] (inner : Step m α β) (items : List α) :
    (feeder inner).apply items = fed inner.name <$> items.mapM inner.apply := by
  simp only [feeder, map_eq_pure_bind, fed_eq]

/-- A zipper does too. -/
theorem apply_zipper [LawfulMonad m] (inner : Step m α β) (key : α → κ) (items : List α) :
    (zipper inner key).apply items = (fun rs => zipped inner.name key (items.zip rs)) <$> items.mapM inner.apply := by
  simp only [zipper, zipped_eq]
  rw [mapM_zip inner.apply (fun x => (x.2.map fun b => (key x.1, b)).attributedTo inner.name) items]
  simp

/-! ## Pairs with different keys -/

/-- A further pair goes to the end, and those of its key before it go. -/
theorem ofPairs_concat (ps : List (κ × β)) (p : κ × β) :
    ofPairs (ps ++ [p]) = (ofPairs ps).filter (fun q => !(q.1 == p.1)) ++ [p] := by
  simp [ofPairs, List.foldl_append]

/-- A finite map has each key once. -/
theorem pairwise_ofPairs (ps : List (κ × β)) : (ofPairs ps).Pairwise fun p q => (p.1 == q.1) = false := by
  induction ps using List.reverseRecOn with
  | nil => exact .nil
  | append_singleton ps p ih =>
    rw [ofPairs_concat]
    refine List.pairwise_append.2 ⟨ih.filter _, List.pairwise_singleton _ _, fun q hq q' hq' => ?_⟩
    rw [List.mem_singleton.1 hq']
    simpa using (List.mem_filter.1 hq).2

/-- Taking a key out leaves the values of the others. -/
theorem lookup_filter [EquivBEq κ] (l : List (κ × β)) (k c : κ) :
    (l.filter fun q => !(q.1 == k)).lookup c = if c == k then none else l.lookup c := by
  induction l with
  | nil => simp
  | cons q l ih =>
    cases hq : q.1 == k with
    | true =>
      -- a pair with the key is left out, and looked up under the key only
      rw [List.filter_cons_of_neg (by simp [hq]), ih, List.lookup_cons, BEq.congr_right hq]
      cases c == k <;> rfl
    | false =>
      rw [List.filter_cons_of_pos (by simp [hq]), List.lookup_cons, List.lookup_cons, ih]
      cases hc : c == q.1 with
      | true => simp [BEq.congr_left hc, hq]
      | false => rfl

/-- Of two pairs with one key the later counts. -/
theorem lookup_ofPairs [EquivBEq κ] (ps : List (κ × β)) (c : κ) : (ofPairs ps).lookup c = ps.reverse.lookup c := by
  induction ps using List.reverseRecOn with
  | nil => rfl
  | append_singleton ps p ih =>
    rw [ofPairs_concat, List.lookup_append, lookup_filter, List.reverse_concat, List.lookup_cons, ih, List.lookup_cons, List.lookup_nil]
    cases c == p.1 <;> simp

/-- The first content that is there under a key. -/
theorem lookup_filterMap (key : α → κ) (c : κ) (xs : List (α × Outcome β)) :
    (xs.filterMap fun x => x.2.content?.map fun b => (key x.1, b)).lookup c = xs.findSome? (contentAt key c) := by
  induction xs with
  | nil => rfl
  | cons x xs ih =>
    rw [List.findSome?_cons, contentAt]
    cases hx : x.2.content? with
    | none => simp [hx, ih]
    | some b =>
      rw [List.filterMap_cons_some (by rw [hx]; rfl), List.lookup_cons, ih]
      cases c == key x.1 <;> rfl

variable {name : String} {key : α → κ} {xs : List (α × Outcome β)}

/-- The finite map of keyed contents has under a key the content of the last element that has one there. -/
theorem lookup_ofPairs_eq_some_iff [EquivBEq κ] {c : κ} {b : β} :
    (ofPairs (xs.filterMap fun x => x.2.content?.map fun b => (key x.1, b))).lookup c = some b ↔
      ∃ before x after, xs = before ++ x :: after ∧ contentAt key c x = some b ∧ ∀ y ∈ after, contentAt key c y = none := by
  rw [lookup_ofPairs, ← List.filterMap_reverse, lookup_filterMap, List.findSome?_eq_some_iff]
  constructor
  · rintro ⟨after, x, before, h, hx, ha⟩
    rw [List.reverse_eq_append_iff] at h
    exact ⟨before.reverse, x, after.reverse, by simpa using h, hx, fun y hy => ha y (List.mem_reverse.1 hy)⟩
  · rintro ⟨before, x, after, rfl, hx, ha⟩
    exact ⟨after.reverse, x, before.reverse, by simp, hx, fun y hy => ha y (List.mem_reverse.1 hy)⟩

/-! ## Agreement -/

/-- A zipper has no content if one item was fatal, and else the pairs of all that have content. -/
theorem content?_zipped : (zipped name key xs).content? = if xs.any (fun x => x.2.isFatal) then none else
    some (ofPairs (xs.filterMap fun x => x.2.content?.map fun b => (key x.1, b))) := by
  rw [zipped_eq, content?_map, content?_merge]
  simp only [List.any_map, List.filterMap_map, Function.comp_def, isFatal_attributedTo, isFatal_map, content?_attributedTo, content?_map]
  split <;> rfl

/-- A feeder has no content if one item was fatal, and else the contents of all that have some. -/
theorem content?_fed {rs : List (Outcome β)} :
    (fed name rs).content? = if rs.any isFatal then none else some (rs.filterMap content?) := by
  rw [fed_eq, content?_merge]
  simp only [List.any_map, List.filterMap_map, Function.comp_def, isFatal_attributedTo, content?_attributedTo]

/-- How what a feeder makes of gathered outcomes compares with what a zipper makes of them. -/
structure Agree (name : String) (key : α → κ) (items : List α) (rs : List (Outcome β)) : Prop where
  fatal : (fed name rs).isFatal = rs.any isFatal ∧ (zipped name key (items.zip rs)).isFatal = rs.any isFatal
  success : (fed name rs).isSuccess = (zipped name key (items.zip rs)).isSuccess
  /-- The failures of all elements, in order, each tied to the inner step unless it is tied to a step already. -/
  failures : (fed name rs).failures = rs.flatMap (fun r => r.failures.map (·.attributedTo name)) ∧
    (zipped name key (items.zip rs)).failures = rs.flatMap (fun r => r.failures.map (·.attributedTo name))
  /-- One fatal element leaves neither with content. -/
  lost : rs.any isFatal = true → (fed name rs).content? = none ∧ (zipped name key (items.zip rs)).content? = none
  /-- The feeder has the contents that are there, in order. -/
  listed : rs.any isFatal = false → (fed name rs).content? = some (rs.filterMap content?)
  /-- The zipper has under each key the content of the last element with the key that has content, and no other keys. -/
  keyed : rs.any isFatal = false → ∃ table, (zipped name key (items.zip rs)).content? = some table ∧
    (table.Pairwise fun p q => (p.1 == q.1) = false) ∧
    ∀ c b, table.lookup c = some b ↔ ∃ before x after, items.zip rs = before ++ x :: after ∧
      contentAt key c x = some b ∧ ∀ y ∈ after, contentAt key c y = none

/-- Outcomes of all elements agree, whatever they are. -/
theorem agree_of_length [EquivBEq κ] {items : List α} {rs : List (Outcome β)} (h : items.length = rs.length) :
    Agree name key items rs := by
  obtain ⟨xs, hxs, rfl⟩ : ∃ xs, xs = items.zip rs ∧ rs = xs.map Prod.snd :=
    ⟨_, rfl, (List.map_snd_zip (Nat.le_of_eq h.symm)).symm⟩
  have hany : (xs.map Prod.snd).any isFatal = xs.any fun x => x.2.isFatal := by rw [List.any_map]; rfl
  have hfailures : (zipped name key xs).failures = (xs.map Prod.snd).flatMap fun r => r.failures.map (·.attributedTo name) := by
    rw [zipped_eq, failures_map, failures_merge, List.flatMap_map, List.flatMap_map]
    simp only [failures_attributedTo, failures_map]
  have hfatal : (zipped name key xs).isFatal = (xs.map Prod.snd).any isFatal := by
    rw [zipped_eq, isFatal_map, isFatal_merge, List.any_map, hany]
    simp only [Function.comp_def, isFatal_attributedTo, isFatal_map]
  refine ⟨⟨?_, hxs ▸ hfatal⟩, ?_, ⟨?_, hxs ▸ hfailures⟩, fun hf => ?_, fun hf => ?_, fun hf => ?_⟩
  · simp [fed_eq, List.any_map, Function.comp_def]
  · rw [← hxs, fed_eq, zipped_eq]
    simp [List.any_map, List.flatMap_map, Function.comp_def]
  · simp [fed_eq, List.flatMap_map]
  · rw [content?_fed, ← hxs, content?_zipped, ← hany, hf]
    exact ⟨rfl, rfl⟩
  · rw [content?_fed, hf]
    rfl
  · rw [← hxs]
    exact ⟨_, by rw [content?_zipped, ← hany, hf]; rfl, pairwise_ofPairs _, fun c b => lookup_ofPairs_eq_some_iff⟩

/-! ## Items side by side -/

/-- A step on elements whose applications are work in turns: its name, and the work that it starts on an element. -/
structure Concurrent {σ π : Type} (M : Working σ π (Outcome β)) (α : Type) where
  name : String
  start : α → π

namespace Concurrent

variable {σ π : Type} {M : Working σ π (Outcome β)} (c : Concurrent M α) (key : α → κ) (R : σ → σ → Prop) (x : σ) (items : List α)

/-- What a feeder comes to, and the state that this leaves: the inner step is started on all elements at once, and the outcomes are
gathered and merged. -/
def Feeds (y : σ) (out : Outcome (List β)) : Prop := ∃ rs, M.Comes R x (items.map c.start) y rs ∧ out = fed c.name rs

/-- What a zipper comes to, and the state that this leaves. -/
def Zips (y : σ) (out : Outcome (List (κ × β))) : Prop :=
  ∃ rs, M.Comes R x (items.map c.start) y rs ∧ out = zipped c.name key (items.zip rs)

/-- That a step does in one go what a concurrent step does in turns if nothing else happens meanwhile. -/
def Does (step : Step (StateM σ) α β) : Prop :=
  c.name = step.name ∧ ∀ a x, M.Comes Eq x [c.start a] ((step.apply a).run x).2 [((step.apply a).run x).1]

/-- What there is to say of the outcomes of all elements. -/
structure Gathered (rs : List (Outcome β)) : Prop where
  /-- Each is such as the work on its element may end in. -/
  ends : List.Forall₂ (fun a r => M.Ends (c.start a) r) items rs
  agree : Agree c.name key items rs
  /-- Where the outcome of each element is settled, there is nothing else to come to. -/
  settled : ∀ f, (∀ a ∈ items, ∀ r, M.Ends (c.start a) r → r = f a) → rs = items.map f

variable {c key R x items}

/-- Whatever the items' computations came to, in whatever order they went on, feeder and zipper gather it in the order of the items. -/
theorem gathered [EquivBEq κ] {y : σ} {rs : List (Outcome β)} (h : M.Comes R x (items.map c.start) y rs) :
    c.Gathered key items rs := by
  have he := List.forall₂_map_left_iff.1 h.ends
  exact ⟨he, agree_of_length he.length_eq, fun f hf => h.eq_map hf⟩

/-- The applications to the elements one after the other are one way of doing them together. -/
theorem Does.comes {step : Step (StateM σ) α β} (h : c.Does step) (items : List α) (x : σ) :
    M.Comes Eq x (items.map c.start) ((items.mapM step.apply).run x).2 ((items.mapM step.apply).run x).1 := by
  induction items generalizing x with
  | nil => exact ⟨[], .start, .nil⟩
  | cons a items ih =>
    rw [List.mapM_cons]
    exact (h.2 a x).cons (ih _)

end Concurrent

/-- A feeder and a zipper agree. Where the elements have their turn one after the other, each makes of the outcomes of its inner step
what it makes of gathered ones. Where the applications are started all at once, they take their turns in any order. Whatever one of the
two comes to then, the other comes to with the same outcomes in the order of the elements: each such as the application may end in, and
where these are settled there is nothing else to come to. Of the same outcomes both make the same tag and the same failures; a fatal one
takes the contents from both; else the feeder has the contents in order and the zipper has under each key the content of the last
element that has one there. Where each application is sure to end, so is the whole. And the turns one after the other are one order
among the others. -/
theorem feeder_zipper_agree [LawfulMonad m] [EquivBEq κ] {σ π : Type} (M : Working σ π (Outcome β)) (c : Concurrent M α)
    (inner : Step m α β) (key : α → κ) (items : List α) :
    ((feeder inner).apply items = fed inner.name <$> items.mapM inner.apply ∧
      (zipper inner key).apply items = (fun rs => zipped inner.name key (items.zip rs)) <$> items.mapM inner.apply) ∧
    (∀ R x y, (∀ out, c.Feeds R x items y out → ∃ rs, out = fed c.name rs ∧
        c.Zips key R x items y (zipped c.name key (items.zip rs)) ∧ c.Gathered key items rs) ∧
      (∀ out, c.Zips key R x items y out → ∃ rs, out = zipped c.name key (items.zip rs) ∧
        c.Feeds R x items y (fed c.name rs) ∧ c.Gathered key items rs) ∧
      ∀ rs, M.Comes R x (items.map c.start) y rs → c.Gathered key items rs) ∧
    ((∀ a ∈ items, M.Sure (c.start a)) → Acc M.Ahead (items.map c.start) ∧ ∀ R x y qs, M.Gathers R x (items.map c.start) y qs →
      (∃ out out', c.Feeds R x items y out ∧ c.Zips key R x items y out') ∨
      ∃ before q after, qs = before ++ q :: after ∧ M.result? q = none ∧ ∀ z, ∃ u q', M.turn z q u q') ∧
    ∀ step : Step (StateM σ) α β, c.Does step → ∀ x,
      c.Feeds Eq x items (((feeder step).apply items).run x).2 (((feeder step).apply items).run x).1 ∧
      c.Zips key Eq x items (((zipper step key).apply items).run x).2 (((zipper step key).apply items).run x).1 := by
  refine ⟨⟨apply_feeder inner items, apply_zipper inner key items⟩, fun R x y => ⟨?_, ?_, fun rs h => Concurrent.gathered h⟩, fun h => ?_,
    fun step h x => ?_⟩
  · rintro out ⟨rs, h, rfl⟩
    exact ⟨rs, rfl, ⟨rs, h, rfl⟩, Concurrent.gathered h⟩
  · rintro out ⟨rs, h, rfl⟩
    exact ⟨rs, rfl, ⟨rs, h, rfl⟩, Concurrent.gathered h⟩
  · have hs : ∀ p ∈ items.map c.start, M.Sure p := List.forall_mem_map.2 h
    refine ⟨Working.acc_ahead fun p hp => (hs p hp).acc, fun R x y qs hg => ?_⟩
    rcases hg.comes_or_turn hs with ⟨rs, hrs⟩ | hturn
    · exact Or.inl ⟨_, _, ⟨rs, hrs, rfl⟩, ⟨rs, hrs, rfl⟩⟩
    · exact Or.inr hturn
  · rw [apply_feeder, apply_zipper]
    exact ⟨⟨_, h.comes items x, by rw [h.1]; rfl⟩, ⟨_, h.comes items x, by rw [h.1]; rfl⟩⟩

/-- Three elements, two of them with one key, whose applications end from the last to the first: the content of the first is the last
one there is under the key. -/
theorem feeder_zipper_agree_reversed :
    let M : Working Unit (Nat × Outcome Nat) (Outcome Nat) :=
      ⟨fun _ p _ q => p.1 = q.1 + 1 ∧ p.2 = q.2, fun p => if p.1 = 0 then some p.2 else none⟩
    let late : Failure := .warning "late"
    let items : List (String × Nat × Outcome Nat) :=
      [("k", 2, .success 1), ("k", 1, .recoverable none [late]), ("l", 0, .recoverable (some 3) [late.withStep "own"])]
    let rs : List (Outcome Nat) := items.map fun a => a.2.2
    let c : Concurrent M (String × Nat × Outcome Nat) := ⟨"inner", Prod.snd⟩
    M.Comes (fun _ _ => True) () (items.map c.start) () rs ∧
    c.Feeds (fun _ _ => True) () items () (fed "inner" rs) ∧ c.Feeds Eq () items () (fed "inner" rs) ∧
    (fed "inner" rs).failures = [late.withStep "inner", late.withStep "own"] ∧
    (fed "inner" rs).content? = some [1, 3] ∧
    c.Zips Prod.fst (fun _ _ => True) () items () (zipped "inner" Prod.fst (items.zip rs)) ∧
    ∃ table, (zipped "inner" Prod.fst (items.zip rs)).content? = some table ∧ table.lookup "k" = some 1 ∧
      table.lookup "l" = some 3 := by
  intro M late items rs c
  let work : List (Nat × Outcome Nat) := items.map Prod.snd
  let missed : Nat × Outcome Nat := (0, .recoverable none [late])
  let last : Nat × Outcome Nat := (0, .recoverable (some 3) [late.withStep "own"])
  have hc : M.Comes (fun _ _ => True) () work () rs := by
    have h₁ : M.Gathers (fun _ _ => True) () work () ([(2, .success 1)] ++ missed :: [last]) :=
      .turn (z := ()) (p := (1, missed.2)) .start trivial rfl ⟨rfl, rfl⟩
    have h₂ : M.Gathers (fun _ _ => True) () work () ([] ++ (1, .success 1) :: [missed, last]) :=
      .turn (z := ()) (p := (2, .success 1)) h₁ trivial rfl ⟨rfl, rfl⟩
    have h₃ : M.Gathers (fun _ _ => True) () work () ([] ++ (0, .success 1) :: [missed, last]) :=
      .turn (z := ()) (p := (1, .success 1)) h₂ trivial rfl ⟨rfl, rfl⟩
    exact ⟨_, h₃, .cons rfl (.cons rfl (.cons rfl .nil))⟩
  have hdown (n : Nat) (r : Outcome Nat) : M.Gathers Eq () [(n, r)] () [(0, r)] := by
    induction n with
    | zero => exact .start
    | succ n ih =>
      have hturn : M.Gathers Eq () [(n + 1, r)] () ([] ++ (n, r) :: []) :=
        .turn (z := ()) (p := (n + 1, r)) .start rfl rfl ⟨rfl, rfl⟩
      exact hturn.trans ih
  let step : Step (StateM Unit) (String × Nat × Outcome Nat) Nat := ofFn "inner" fun a => a.2.2
  have hdoes : c.Does step := ⟨rfl, fun a _ => ⟨_, hdown a.2.1 a.2.2, .cons rfl .nil⟩⟩
  obtain ⟨-, htogether, -, hdone⟩ := feeder_zipper_agree M c step Prod.fst items
  have hagree : Agree "inner" Prod.fst items rs := ((htogether _ _ _).2.2 rs hc).agree
  obtain ⟨table, htable, -, hlookup⟩ := hagree.keyed rfl
  refine ⟨hc, ⟨rs, hc, rfl⟩, (hdone step hdoes ()).1, hagree.failures.1, hagree.listed rfl, ⟨rs, hc, rfl⟩, table, htable,
    (hlookup "k" 1).2 ?_, (hlookup "l" 3).2 ?_⟩
  · exact ⟨[], _, _, rfl, rfl, by simp [contentAt, content?]⟩
  · exact ⟨items.zip rs |>.take 2, _, [], rfl, rfl, by simp⟩

end Step

end CatalogSync
