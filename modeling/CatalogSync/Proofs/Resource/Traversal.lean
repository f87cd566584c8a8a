import Mathlib.Data.List.Basic
import CatalogSync.Proofs.Resource.Kinds

/-!
# The order of a walk

A walk can be made with a stack in place of recursion: the resource on top is visited, and its children are pushed in reverse, so that the
first of them is on top. Whatever is on the stack, what it holds is still to be visited, tree by tree from the top (`Traversal.Turns.outlook`);
since each turn visits one resource, the stack is empty after as many turns as there are resources (`Traversal.exists_turns`).

Resources are told apart by their places, which are the ways that lead to them: the number of a root, then of a child of it, and so on.
`Graph.walk_traverses` says that the loop, the recursion and `Graph.walk` list the same resources, and that they list each place once, each
after the places above it and before those below its later siblings.
-/

namespace CatalogSync

/-! ## The stack -/

/-- A loop that visits resources: a stack of those to be visited, of which the last is on top, and those visited so far. -/
structure Traversal where
  stack : List Resource
  visited : List Resource

namespace Traversal

open Resource

/-- The loop before its first turn, with the first root on top. -/
def start (g : Graph) : Traversal := ⟨g.roots.reverse, []⟩

/-- One turn of the loop: the resource on top is visited and its children are pushed, the last one first. There is none once the stack is
empty. -/
def next? (t : Traversal) : Option Traversal :=
  t.stack.getLast?.map fun r => ⟨t.stack.dropLast ++ r.children.reverse, t.visited ++ [r]⟩

/-- The turns that lead from one state of the loop to another. -/
inductive Turns : Traversal → Nat → Traversal → Prop where
  | refl (t : Traversal) : Turns t 0 t
  | step {t u v : Traversal} {n : Nat} (h : t.next? = some u) (h' : Turns u n v) : Turns t (n + 1) v

/-- What is still to be visited. -/
def ahead (t : Traversal) : List Resource := preorderAll t.stack.reverse

/-- The loop either has an empty stack and ends there, or a resource on top and takes a turn. -/
theorem next?_cases (t : Traversal) :
    (t.stack = [] ∧ t.next? = none) ∨
      ∃ rest r, t.stack = rest ++ [r] ∧ t.next? = some ⟨rest ++ r.children.reverse, t.visited ++ [r]⟩ := by
  rcases List.eq_nil_or_concat' t.stack with hs | ⟨rest, r, hs⟩
  · exact Or.inl ⟨hs, by simp [next?, hs]⟩
  · exact Or.inr ⟨rest, r, hs, by simp [next?, hs]⟩

/-- A turn takes what comes next from what is ahead: the children on the stack stand in for what is below the resource. -/
theorem ahead_of_next? {t u : Traversal} (h : t.next? = some u) :
    ∃ r, u.visited = t.visited ++ [r] ∧ t.ahead = r :: u.ahead := by
  rcases t.next?_cases with ⟨_, hn⟩ | ⟨rest, r, hs, hn⟩
  · nomatch h.symm.trans hn
  · obtain rfl := Option.some.inj (h.symm.trans hn)
    refine ⟨r, rfl, ?_⟩
    simp only [ahead, hs, List.reverse_append, List.reverse_reverse, List.reverse_singleton, List.singleton_append]
    rw [preorderAll, preorder_eq, preorderAll_append, List.cons_append]

/-- Turns move resources from what is ahead to what was visited, one in each turn and in order. -/
theorem Turns.outlook {t u : Traversal} {n : Nat} (h : Turns t n u) :
    ∃ seen, seen.length = n ∧ u.visited = t.visited ++ seen ∧ t.ahead = seen ++ u.ahead := by
  induction h with
  | refl t => exact ⟨[], rfl, (List.append_nil _).symm, rfl⟩
  | step h _ ih =>
    obtain ⟨seen, rfl, hv, ha⟩ := ih
    obtain ⟨r, hv', ha'⟩ := ahead_of_next? h
    exact ⟨r :: seen, rfl, by rw [hv, hv', List.append_assoc, List.singleton_append], by rw [ha', ha, List.cons_append]⟩

/-- The loop takes as many turns as there are resources ahead, and then it ends. The stack may grow from turn to turn; what is ahead gets
less. -/
theorem exists_turns (t : Traversal) : ∃ u, Turns t t.ahead.length u ∧ u.stack = [] := by
  induction hn : t.ahead.length generalizing t with
  | zero =>
    refine ⟨t, .refl t, ?_⟩
    rcases t.next?_cases with ⟨hs, _⟩ | ⟨_, _, _, h⟩
    · exact hs
    · obtain ⟨r, _, ha⟩ := ahead_of_next? h
      rw [ha] at hn
      nomatch hn
  | succ n ih =>
    rcases t.next?_cases with ⟨hs, _⟩ | ⟨_, _, _, h⟩
    · rw [ahead, hs] at hn
      nomatch hn
    · obtain ⟨r, _, ha⟩ := ahead_of_next? h
      rw [ha] at hn
      obtain ⟨u, hu, hs⟩ := ih _ (Nat.succ.inj hn)
      exact ⟨u, .step h hu, hs⟩

end Traversal

namespace Resource

/-! ## Ways into a resource -/

/-- The resource that a way leads to, from child to child by their numbers. -/
def at? : Resource → List Nat → Option Resource
  | r, [] => some r
  | r, i :: way => r.children[i]?.bind (·.at? way)

mutual

/-- The ways that lead to a resource and to those below it, in the order of their visits. -/
def ways : Resource → List (List Nat)
  | node _ _ cs => [] :: waysFrom 0 cs

/-- The ways into several trees, of which the first has the given number. -/
def waysFrom (i : Nat) : List Resource → List (List Nat)
  | [] => []
  | r :: rest => (ways r).map (i :: ·) ++ waysFrom (i + 1) rest

end

/-- A way leads on from where its first part leads. -/
theorem at?_append (r : Resource) (above way : List Nat) : r.at? (above ++ way) = (r.at? above).bind (·.at? way) := by
  induction above generalizing r with
  | nil => rfl
  | cons i above ih =>
    rw [List.cons_append, at?, at?, Option.bind_assoc]
    exact congrArg _ (funext fun c => ih c)

/-- The ways into a resource are the one to itself and those into its children. -/
theorem ways_eq (r : Resource) : r.ways = [] :: waysFrom 0 r.children := by
  cases r
  rfl

/-- A way leads into the tree that its first number tells. -/
theorem mem_waysFrom {i : Nat} {rs : List Resource} {way : List Nat} :
    way ∈ waysFrom i rs ↔ ∃ n rest r, way = (i + n) :: rest ∧ rs[n]? = some r ∧ rest ∈ r.ways := by
  induction rs generalizing i with
  | nil => simp [waysFrom]
  | cons s rs ih =>
    rw [waysFrom, List.mem_append, List.mem_map, ih]
    constructor
    · rintro (⟨rest, hr, rfl⟩ | ⟨n, rest, r, rfl, hn, hr⟩)
      · exact ⟨0, rest, s, rfl, rfl, hr⟩
      · exact ⟨n + 1, rest, r, by rw [Nat.add_right_comm, Nat.add_assoc], hn, hr⟩
    · rintro ⟨n, rest, r, rfl, hn, hr⟩
      cases n with
      | zero =>
        cases hn
        exact Or.inl ⟨rest, hr, rfl⟩
      | succ n => exact Or.inr ⟨n, rest, r, by rw [Nat.add_right_comm, Nat.add_assoc], hn, hr⟩

/-- A way leads somewhere exactly if it is one of those that lead to a resource of the tree. -/
theorem mem_ways {r : Resource} {way : List Nat} : way ∈ r.ways ↔ (r.at? way).isSome = true := by
  induction way generalizing r with
  | nil => simp [ways_eq, at?]
  | cons i way ih =>
    rw [ways_eq, List.mem_cons, mem_waysFrom, at?]
    constructor
    · rintro (h | ⟨n, rest, c, h, hc, hr⟩)
      · nomatch h
      · obtain ⟨rfl, rfl⟩ := List.cons.inj h
        rw [Nat.zero_add, hc]
        exact ih.1 hr
    · intro h
      cases hc : r.children[i]? with
      | none => nomatch hc ▸ h
      | some c =>
        rw [hc] at h
        exact Or.inr ⟨i, way, c, by rw [Nat.zero_add], hc, ih.2 h⟩

/-- The ways into trees are in increasing order if those into each of the trees are. -/
theorem waysFrom_sorted {i : Nat} {rs : List Resource} (h : ∀ r ∈ rs, r.ways.Pairwise (· < ·)) :
    (waysFrom i rs).Pairwise (· < ·) := by
  induction rs generalizing i with
  | nil => exact List.Pairwise.nil
  | cons r rs ih =>
    obtain ⟨hr, hrs⟩ := List.forall_mem_cons.1 h
    refine List.pairwise_append.2 ⟨?_, ih hrs, ?_⟩
    · exact List.pairwise_map.2 (hr.imp fun hlt => List.cons_lt_cons_iff.2 (Or.inr ⟨rfl, hlt⟩))
    · rintro a ha b hb
      obtain ⟨way, _, rfl⟩ := List.mem_map.1 ha
      obtain ⟨n, way', _, rfl, _, _⟩ := mem_waysFrom.1 hb
      exact List.cons_lt_cons_iff.2 (Or.inl (by omega))

/-- The ways into a tree are in increasing order: none is repeated, and a way comes before those that go on from it. -/
theorem ways_sorted (r : Resource) : r.ways.Pairwise (· < ·) := by
  induction r with
  | node reference content children ih =>
    refine List.pairwise_cons.2 ⟨fun way hway => ?_, waysFrom_sorted ih⟩
    obtain ⟨n, rest, _, rfl, _, _⟩ := mem_waysFrom.1 hway
    exact List.nil_lt_cons _ _

/-- The resource that a way leads to from several trees, which begins with the number of one of them. -/
def reach? (rs : List Resource) : List Nat → Option Resource
  | [] => none
  | i :: way => rs[i]?.bind (·.at? way)

/-- Whatever has something below it is there. -/
theorem isSome_reach?_of_append {rs : List Resource} {above way : List Nat} (ha : above ≠ [])
    (h : (reach? rs (above ++ way)).isSome = true) : (reach? rs above).isSome = true := by
  cases above with
  | nil => exact absurd rfl ha
  | cons i above =>
    rw [List.cons_append, reach?] at h
    rw [reach?]
    cases hi : rs[i]? with
    | none =>
      rw [hi] at h
      nomatch h
    | some r =>
      rw [hi, Option.bind_some, at?_append] at h
      exact Option.isSome_of_isSome_bind h

/-- The ways into a list are those that lead somewhere. -/
theorem mem_waysFrom_zero {rs : List Resource} {way : List Nat} : way ∈ waysFrom 0 rs ↔ (reach? rs way).isSome = true := by
  rw [mem_waysFrom]
  constructor
  · rintro ⟨n, rest, r, rfl, hn, hr⟩
    rw [Nat.zero_add, reach?, hn]
    exact mem_ways.1 hr
  · intro h
    cases way with
    | nil => nomatch h
    | cons i way =>
      cases hi : rs[i]? with
      | none =>
        rw [reach?, hi] at h
        nomatch h
      | some r =>
        rw [reach?, hi] at h
        exact ⟨i, way, r, by rw [Nat.zero_add], hi, mem_ways.2 h⟩

/-- Ways into trees lead to the resources that a traversal of the trees lists, if those into each tree do. -/
theorem map_reach?_waysFrom {rs all : List Resource} {i : Nat} (hall : ∀ n, all[i + n]? = rs[n]?)
    (h : ∀ r ∈ rs, r.ways.map r.at? = r.preorder.map some) :
    (waysFrom i rs).map (reach? all) = (preorderAll rs).map some := by
  induction rs generalizing i with
  | nil => rfl
  | cons r rs ih =>
    obtain ⟨hr, hrs⟩ := List.forall_mem_cons.1 h
    have hi : all[i]? = some r := hall 0
    have hrest : ∀ n, all[i + 1 + n]? = rs[n]? := fun n => by
      rw [Nat.add_assoc, Nat.add_comm 1 n]
      exact hall (n + 1)
    have hfirst : ∀ way, reach? all (i :: way) = r.at? way := fun way => by rw [reach?, hi, Option.bind_some]
    rw [waysFrom, preorderAll, List.map_append, List.map_append, ih hrest hrs, ← hr, List.map_map]
    exact congrArg (· ++ _) (List.map_congr_left fun way _ => hfirst way)

/-- The ways into a tree lead to the resources that a traversal of it lists. -/
theorem map_at?_ways (r : Resource) : r.ways.map r.at? = r.preorder.map some := by
  induction r with
  | node reference content children ih =>
    have hbelow : (waysFrom 0 children).map (reach? children) = (preorderAll children).map some :=
      map_reach?_waysFrom (fun n => by rw [Nat.zero_add]) ih
    rw [ways_eq, preorder_eq, List.map_cons, List.map_cons]
    refine congrArg₂ List.cons rfl ((List.map_congr_left fun way hway => ?_).trans hbelow)
    -- a way below a resource is a way from its children
    obtain ⟨n, rest, _, rfl, _, _⟩ := mem_waysFrom.1 hway
    rfl

end Resource

namespace Graph

open Resource

/-! ## Places of a graph -/

/-- The places of a graph in the order of their visits. -/
def places (g : Graph) : List (List Nat) := waysFrom 0 g.roots

/-- The resource at a place: the number of a root, and then the numbers of the children on the way. -/
def at? (g : Graph) (place : List Nat) : Option Resource := reach? g.roots place

/-- That resources are those at the given places of a graph, and that these are all its places in the order in which a traversal comes to
them. -/
structure Visits (g : Graph) (places : List (List Nat)) (rs : List Resource) : Prop where
  /-- In each turn the resource at a place is visited. -/
  turns : places.map g.at? = rs.map some
  every : ∀ place, place ∈ places ↔ (g.at? place).isSome = true
  once : places.Nodup
  /-- What is below a place comes after it. -/
  descends : ∀ above way, above ≠ [] → way ≠ [] → above ++ way ∈ places → places.idxOf above < places.idxOf (above ++ way)
  /-- Roots or siblings come in order, each of them with all that is below it before the next. -/
  advances : ∀ above i j way way', i < j → above ++ i :: way ∈ places → above ++ j :: way' ∈ places →
    places.idxOf (above ++ i :: way) < places.idxOf (above ++ j :: way')

/-- In an increasing list the lesser of two members comes first. -/
theorem idxOf_lt_of_sorted {l : List (List Nat)} (hl : l.Pairwise (· < ·)) {a b : List Nat} (ha : a ∈ l) (hb : b ∈ l) (h : a < b) :
    l.idxOf a < l.idxOf b := by
  have hia := List.idxOf_lt_length_of_mem ha
  have hib := List.idxOf_lt_length_of_mem hb
  rcases Nat.lt_trichotomy (l.idxOf a) (l.idxOf b) with hlt | heq | hgt
  · exact hlt
  · have hab : a = b := by
      rw [← List.getElem_idxOf hia, ← List.getElem_idxOf hib]
      simp only [heq]
    exact absurd (hab ▸ h) (List.lt_irrefl b)
  · have hba := List.pairwise_iff_getElem.1 hl _ _ hib hia hgt
    rw [List.getElem_idxOf, List.getElem_idxOf] at hba
    exact absurd hba (List.lt_asymm h)

/-- Places are in the order of a traversal if they are in increasing order. -/
theorem visits_of_sorted {g : Graph} {rs : List Resource} {places : List (List Nat)} (turns : places.map g.at? = rs.map some)
    (every : ∀ place, place ∈ places ↔ (g.at? place).isSome = true) (hsorted : places.Pairwise (· < ·)) : g.Visits places rs where
  turns := turns
  every := every
  once := by
    refine hsorted.imp ?_
    rintro a _ h rfl
    exact List.lt_irrefl a h
  descends above way ha hw hm := by
    refine idxOf_lt_of_sorted hsorted ((every _).2 (isSome_reach?_of_append ha ((every _).1 hm))) hm ?_
    obtain ⟨i, way, rfl⟩ := List.exists_cons_of_ne_nil hw
    have hlt : above ++ [] < above ++ i :: way := List.append_left_lt (List.nil_lt_cons i way)
    rwa [List.append_nil] at hlt
  advances above i j way way' hij hm hm' :=
    idxOf_lt_of_sorted hsorted hm hm' (List.append_left_lt (List.cons_lt_cons_iff.2 (Or.inl hij)))

/-- The walk visits the places of a graph in their order. -/
theorem visits_places (g : Graph) : g.Visits g.places g.walk := by
  refine visits_of_sorted ?_ (fun _ => mem_waysFrom_zero) (waysFrom_sorted fun r _ => r.ways_sorted)
  rw [walk, walkStack_eq]
  exact map_reach?_waysFrom (fun n => by rw [Nat.zero_add]) fun r _ => r.map_at?_ways

/-- The loop with a stack ends after as many turns as a graph has resources. What it has visited then is what `walk` lists, which is what the
recursion lists: each place of the graph once, after the places above it and before those below its later siblings. -/
theorem walk_traverses (g : Graph) :
    (∃ t, (Traversal.start g).Turns g.walk.length t ∧ t.next? = none ∧ t.visited = g.walk) ∧
    g.walk = preorderAll g.roots ∧ g.Visits g.places g.walk := by
  have hwalk : g.walk = preorderAll g.roots := walkStack_eq g.roots
  have hahead : (Traversal.start g).ahead = g.walk := by
    rw [hwalk, Traversal.ahead, Traversal.start, List.reverse_reverse]
  obtain ⟨t, ht, hs⟩ := (Traversal.start g).exists_turns
  obtain ⟨seen, _, hvisited, hleft⟩ := ht.outlook
  have hempty : t.ahead = [] := by rw [Traversal.ahead, hs]; rfl
  rw [hempty, List.append_nil, hahead] at hleft
  refine ⟨⟨t, hahead ▸ ht, by rw [Traversal.next?, hs]; rfl, ?_⟩, hwalk, visits_places g⟩
  rw [hvisited, ← hleft]
  rfl

end Graph

end CatalogSync
