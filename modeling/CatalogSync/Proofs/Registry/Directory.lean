import Mathlib.Data.List.Basic
import CatalogSync.Proofs.Registry
import CatalogSync.Registry.Callers

/-!
# The registry as a finite map

To its callers the registry is a finite map from URLs to services. `Directory.Serves` says how such a map answers a call and what becomes of
it, with no word about how entries are kept. Whatever a registry without entries is asked, by any number of callers in any order, it answers
as that map does (`Session.Run.refines`).
-/

namespace CatalogSync.Registry

/-! ## A map that serves calls -/

/-- A map from URLs to services. -/
def Directory : Type := AccessUrl → Option Service

namespace Directory

/-- The map without entries. -/
def empty : Directory := fun _ => none

/-- The map with another entry at a URL, or with none. -/
def set (m : Directory) (url : AccessUrl) (entry : Option Service) : Directory := fun other => if other = url then entry else m other

/-- The services of a map, each of them once and under its own URL, in the strictly increasing order of the URLs. -/
structure Lists (m : Directory) (services : List Service) : Prop where
  entry_iff : ∀ url s, m url = some s ↔ s ∈ services ∧ s.url = url
  sorted : services.Pairwise fun a b => compare a.url b.url = .lt

/-- How a map answers a call, and what becomes of it. -/
inductive Serves (m : Directory) : Event → Directory → Prop where
  /-- A URL without an entry gets the service. -/
  | registered {i now : Nat} {s : Service} (h : m s.url = none) : Serves m ⟨i, now, .put s, true⟩ (m.set s.url (some s))
  | known {i now : Nat} {s : Service} (h : m s.url ≠ none) : Serves m ⟨i, now, .put s, false⟩ m
  /-- The entry of a URL gives way to the service. -/
  | updated {i now : Nat} {s : Service} (h : m s.url ≠ none) : Serves m ⟨i, now, .update s, true⟩ (m.set s.url (some s))
  | unknown {i now : Nat} {s : Service} (h : m s.url = none) : Serves m ⟨i, now, .update s, false⟩ m
  | removed {i now : Nat} (url : AccessUrl) : Serves m ⟨i, now, .remove url, m url⟩ (m.set url none)
  /-- The entry keeps all but its snapshot and the time of it. -/
  | swapped {i now : Nat} {url : AccessUrl} {s : Service} {expected : Option Snapshot} {new : Snapshot} (h : m url = some s)
    (hid : s.snapshot.map Snapshot.id = expected.map Snapshot.id) :
    Serves m ⟨i, now, .swap url expected new, .ok s.snapshot⟩ (m.set url (some { s with snapshot := some new, lastSynced := some now }))
  | conflict {i now : Nat} {url : AccessUrl} {s : Service} {expected : Option Snapshot} {new : Snapshot} (h : m url = some s)
    (hid : s.snapshot.map Snapshot.id ≠ expected.map Snapshot.id) :
    Serves m ⟨i, now, .swap url expected new, .error (.snapshotConflict url)⟩ m
  | notRegistered {i now : Nat} {url : AccessUrl} {expected : Option Snapshot} {new : Snapshot} (h : m url = none) :
    Serves m ⟨i, now, .swap url expected new, .error (.notRegistered url)⟩ m
  | found {i now : Nat} (url : AccessUrl) : Serves m ⟨i, now, .get url, m url⟩ m
  | listed {i now : Nat} {services : List Service} (h : m.Lists services) : Serves m ⟨i, now, .getAll, services⟩ m
  | contained {i now : Nat} (url : AccessUrl) : Serves m ⟨i, now, .contains url, (m url).isSome⟩ m
  | counted {i now : Nat} {services : List Service} (h : m.Lists services) : Serves m ⟨i, now, .size, services.length⟩ m

/-- The calls that a map answers one after the other, and what becomes of it. -/
inductive Run (start : Directory) : List Event → Directory → Prop where
  | refl : Run start [] start
  | step {es : List Event} {m m' : Directory} {e : Event} (h : Run start es m) (h' : m.Serves e m') : Run start (es ++ [e]) m'

theorem set_self (m : Directory) (url : AccessUrl) (entry : Option Service) : m.set url entry url = entry := if_pos rfl

/-- What is set for one URL leaves the others as they were. -/
theorem set_of_ne (m : Directory) {url other : AccessUrl} (h : other ≠ url) (entry : Option Service) : m.set url entry other = m other :=
  if_neg h

/-- A map has one list of its services, however it came by them. -/
theorem Lists.eq {m : Directory} {services services' : List Service} (h : m.Lists services) (h' : m.Lists services') :
    services = services' := by
  have hne : ∀ {a b : Service}, compare a.url b.url = .lt → a ≠ b := by
    rintro a _ hlt rfl
    rw [Std.ReflOrd.compare_self] at hlt
    nomatch hlt
  have hmem : ∀ s, s ∈ services ↔ s ∈ services' := by
    intro s
    have hs := (h.entry_iff s.url s).symm.trans (h'.entry_iff s.url s)
    simpa using hs
  have hperm : services.Perm services' := (List.perm_ext_iff_of_nodup (h.sorted.imp hne) (h'.sorted.imp hne)).2 hmem
  refine hperm.eq_of_pairwise (fun a b _ _ hab hba => ?_) h.sorted h'.sorted
  have hnot : compare b.url a.url ≠ .lt := Std.OrientedCmp.not_lt_of_lt hab
  exact absurd hba hnot

end Directory

/-! ## Putting a service -/

/-- The answer to a registration at a URL, if an event is one. -/
def Event.put? (url : AccessUrl) : Event → Option Bool
  | ⟨_, _, .put s, isNew⟩ => if s.url = url then some isNew else none
  | _ => none

/-- The answers to the registrations at a URL, in order. -/
def puts (url : AccessUrl) (es : List Event) : List Bool := es.filterMap (Event.put? url)

/-- That an event takes the entry of a URL out. -/
def Event.Takes (url : AccessUrl) (e : Event) : Prop := ∃ i now s, e = ⟨i, now, .remove url, some s⟩

theorem puts_concat (url : AccessUrl) (es : List Event) (e : Event) : puts url (es ++ [e]) = puts url es ++ (e.put? url).toList := by
  rw [puts, List.filterMap_append]
  cases h : e.put? url <;> simp [puts, h]

namespace Directory

variable {m m' : Directory} {e : Event} {es : List Event} {url : AccessUrl}

/-- A URL without an entry gets one by a registration only, and that succeeds. -/
theorem Serves.of_eq_none (h : m.Serves e m') (hm : m url = none) :
    (e.put? url = none ∧ m' url = none) ∨ (e.put? url = some true ∧ (m' url).isSome = true) := by
  have hset : ∀ {url' : AccessUrl} (entry : Option Service), m url' ≠ none → m.set url' entry url = none := by
    intro url' entry hu
    rwa [set_of_ne m (by rintro rfl; exact hu hm)]
  cases h with
  | @registered _ _ s _ =>
    by_cases hu : s.url = url
    · subst hu
      exact Or.inr ⟨if_pos rfl, by rw [set_self]; rfl⟩
    · exact Or.inl ⟨if_neg hu, by rwa [set_of_ne m (Ne.symm hu)]⟩
  | known h => exact Or.inl ⟨if_neg (by rintro rfl; exact h hm), hm⟩
  | updated h => exact Or.inl ⟨rfl, hset _ h⟩
  | removed url' =>
    by_cases hu : url = url'
    · exact Or.inl ⟨rfl, by rw [hu, set_self]⟩
    · exact Or.inl ⟨rfl, by rwa [set_of_ne m hu]⟩
  | swapped h => exact Or.inl ⟨rfl, hset _ (by simp [h])⟩
  | unknown | conflict | notRegistered | found | listed | contained | counted => exact Or.inl ⟨rfl, hm⟩

/-- An entry stays until it is taken out, and no registration at its URL succeeds. -/
theorem Serves.of_isSome (h : m.Serves e m') (hm : (m url).isSome = true) (ht : ¬e.Takes url) :
    (∀ isNew, e.put? url = some isNew → isNew = false) ∧ (m' url).isSome = true := by
  have hset : ∀ (url' : AccessUrl) (s : Service), (m.set url' (some s) url).isSome = true := by
    intro url' s
    by_cases hu : url = url'
    · rw [hu, set_self]
      rfl
    · rwa [set_of_ne m hu]
  cases h with
  | @registered _ _ s h =>
    refine ⟨fun isNew hput => ?_, hset _ s⟩
    obtain ⟨rfl, _⟩ := Option.ite_none_right_eq_some.1 hput
    simp [h] at hm
  | known =>
    refine ⟨fun isNew hput => ?_, hm⟩
    exact (Option.some.inj (Option.ite_none_right_eq_some.1 hput).2).symm
  | updated => exact ⟨nofun, hset _ _⟩
  | removed url' =>
    refine ⟨nofun, ?_⟩
    by_cases hu : url = url'
    · subst hu
      obtain ⟨s, hs⟩ := Option.isSome_iff_exists.1 hm
      exact absurd ⟨_, _, s, by rw [hs]⟩ ht
    · rwa [set_of_ne m hu]
  | swapped => exact ⟨nofun, hset _ _⟩
  | unknown | conflict | notRegistered | found | listed | contained | counted => exact ⟨nofun, hm⟩

/-- As long as nobody takes it out, the first registration at a URL without an entry succeeds and no other one does. -/
theorem Run.puts_eq (h : m.Run es m') (hm : m url = none) (ht : ∀ e ∈ es, ¬e.Takes url) :
    (puts url es = [] ∧ m' url = none) ∨ (∃ n, puts url es = true :: List.replicate n false) ∧ (m' url).isSome = true := by
  induction h with
  | refl => exact Or.inl ⟨rfl, hm⟩
  | @step es m' m'' e _ h' ih =>
    have hnow : ¬e.Takes url := ht e (List.mem_append_right _ (List.mem_singleton_self e))
    rw [puts_concat]
    rcases ih fun e he => ht e (List.mem_append_left _ he) with ⟨hputs, hnone⟩ | ⟨⟨n, hputs⟩, hsome⟩
    · rcases h'.of_eq_none hnone with ⟨hput, hnone'⟩ | ⟨hput, hsome⟩
      · exact Or.inl ⟨by simp [hputs, hput], hnone'⟩
      · exact Or.inr ⟨⟨0, by simp [hputs, hput]⟩, hsome⟩
    · obtain ⟨hfalse, hsome'⟩ := h'.of_isSome hsome hnow
      refine Or.inr ⟨?_, hsome'⟩
      cases hput : e.put? url with
      | none => exact ⟨n, by simp [hputs]⟩
      | some isNew =>
        obtain rfl := hfalse isNew hput
        exact ⟨n + 1, by rw [hputs, Option.toList_some, List.cons_append, List.replicate_succ']⟩

end Directory

/-! ## The map of a registry -/

/-- The map that callers see of a registry. -/
def directory (r : Registry) : Directory := r.get?

section

variable {r : Registry}

/-- The listing of a registry lists its map. -/
theorem Distinct.lists (h : r.Distinct) : r.directory.Lists r.getAll where
  entry_iff url s := by
    constructor
    · intro hs
      have hu : s.url = url := h.url_eq hs
      exact ⟨h.mem_getAll_iff.2 (hu.symm ▸ hs), hu⟩
    · rintro ⟨hs, rfl⟩
      exact h.get?_of_mem_getAll hs
  sorted := List.pairwise_map.1 h.sorted_getAll

/-- A service that is put where none was is set in the map. -/
theorem directory_put {s : Service} (h : r.get? s.url = none) : (r.put s).2.directory = r.directory.set s.url (some s) := by
  funext url
  show (r.put s).2.get? url = if url = s.url then some s else r.get? url
  rw [get?_put]
  by_cases hu : url = s.url
  · rw [hu, h]
    rfl
  · rw [if_neg hu, if_neg hu, Option.or_none]

/-- So is one that replaces another. -/
theorem directory_replace {s : Service} (h : r.get? s.url ≠ none) : (r.replace s).directory = r.directory.set s.url (some s) := by
  funext url
  show (r.replace s).get? url = if url = s.url then some s else r.get? url
  obtain ⟨x, hx⟩ := Option.ne_none_iff_exists'.1 h
  rw [get?_replace, hx]
  rfl

/-- A removal unsets its URL in the map. -/
theorem directory_remove (url : AccessUrl) : (r.remove url).2.directory = r.directory.set url none :=
  funext (get?_remove r url)

/-- Every call leaves one entry for each URL, and under it a service of that URL. -/
theorem Distinct.serve (h : r.Distinct) (now : Nat) (c : Call) : (r.serve now c).2.Distinct := by
  cases c with
  | put s => exact h.put s
  | update s => exact h.update s
  | remove url => exact h.remove url
  | swap url expected new =>
    show (r.exchange now url expected new).2.Distinct
    unfold exchange
    rcases r.swap_cases now url expected new with ⟨_, _, _, he⟩ | ⟨_, _, _, he⟩ | ⟨_, he⟩ <;> rw [he]
    · exact h.replace _
    · exact h
    · exact h
  | get | getAll | contains | size => exact h

/-- Every call is served as by the map. -/
theorem Distinct.serves (h : r.Distinct) (i now : Nat) (c : Call) :
    r.directory.Serves ⟨i, now, c, (r.serve now c).1⟩ (r.serve now c).2.directory := by
  cases c with
  | put s =>
    show r.directory.Serves ⟨i, now, .put s, (r.put s).1⟩ (r.put s).2.directory
    cases hs : r.get? s.url with
    | none =>
      rw [fst_put, hs, directory_put hs]
      exact .registered hs
    | some x =>
      have hput : (r.put s).1 = false := by rw [fst_put, hs]; rfl
      rw [put_eq_self hput, hput]
      exact .known (by simp [directory, hs])
  | update s =>
    show r.directory.Serves ⟨i, now, .update s, (r.update s).1⟩ (r.update s).2.directory
    unfold Registry.update contains
    cases hs : r.get? s.url with
    | none => exact .unknown hs
    | some x =>
      have hne : r.get? s.url ≠ none := by simp [hs]
      show r.directory.Serves ⟨i, now, .update s, true⟩ (r.replace s).directory
      rw [directory_replace hne]
      exact .updated hne
  | remove url =>
    show r.directory.Serves ⟨i, now, .remove url, r.directory url⟩ (r.remove url).2.directory
    rw [directory_remove]
    exact .removed url
  | swap url expected new =>
    show r.directory.Serves ⟨i, now, .swap url expected new, (r.exchange now url expected new).1⟩
      (r.exchange now url expected new).2.directory
    unfold exchange
    -- the entry has the snapshot that is expected, or another one, or there is no entry
    rcases r.swap_cases now url expected new with ⟨s, hs, hid, he⟩ | ⟨s, hs, hid, he⟩ | ⟨hs, he⟩ <;> rw [he]
    · obtain rfl : s.url = url := h.url_eq hs
      rw [directory_replace (by simp [hs])]
      exact .swapped hs hid
    · exact .conflict hs hid
    · exact .notRegistered hs
  | get url => exact .found url
  | getAll => exact .listed h.lists
  | contains url => exact .contained url
  | size =>
    show r.directory.Serves ⟨i, now, .size, r.size⟩ r.directory
    rw [← length_getAll]
    exact .counted h.lists

end

/-! ## Sessions -/

namespace Session

variable {x y : Session} {e : Event} {es : List Event}

/-- No step gives a URL a second entry. -/
theorem Step.distinct (h : Step x e y) (hx : x.registry.Distinct) : y.registry.Distinct := by
  cases h with
  | serve r before after now c => exact hx.serve now c

/-- What a step shows of the registry a map shows. -/
theorem Step.serves (h : Step x e y) (hx : x.registry.Distinct) : x.registry.directory.Serves e y.registry.directory := by
  cases h with
  | serve r before after now c => exact hx.serves before.length now c

/-- So no run does. -/
theorem Run.distinct (h : Run x es y) (hx : x.registry.Distinct) : y.registry.Distinct := by
  induction h with
  | refl => exact hx
  | step _ h' ih => exact h'.distinct ih

/-- What a run shows of the registry a map shows. -/
theorem Run.serves (h : Run x es y) (hx : x.registry.Distinct) : Directory.Run x.registry.directory es y.registry.directory := by
  induction h with
  | refl => exact .refl
  | step h h' ih => exact ih.step (h'.serves (h.distinct hx))

/-- Whatever callers ask of a registry that begins without entries, they are answered as by a map that begins so. At any time the map has
each service under its own URL, and the list of all services is the one in the increasing order of the URLs; the next call is served as
by the map; and as long as nobody takes it out, the first of the registrations at a URL without an entry succeeds and no other one does. -/
theorem Run.refines {callers : List Caller} (h : Run ⟨.empty, callers⟩ es x) :
    Directory.Run .empty es x.registry.directory ∧
    (∀ url s, x.registry.directory url = some s → s.url = url) ∧
    (∀ services, x.registry.directory.Lists services ↔ services = x.registry.getAll) ∧
    (∀ e y, Step x e y → x.registry.directory.Serves e y.registry.directory) ∧
    ∀ es' y, Run x es' y → ∀ url, x.registry.directory url = none → (∀ e ∈ es', ¬e.Takes url) →
      puts url es' = [] ∨ ∃ n, puts url es' = true :: List.replicate n false := by
  have hx : x.registry.Distinct := h.distinct distinct_empty
  refine ⟨h.serves distinct_empty, ?_, ?_, ?_, ?_⟩
  · intro url s hs
    exact hx.url_eq hs
  · intro services
    constructor
    · intro hl
      exact hl.eq hx.lists
    · rintro rfl
      exact hx.lists
  · intro e y hs
    exact hs.serves hx
  · intro es' y hr url hnone ht
    rcases (hr.serves hx).puts_eq hnone ht with ⟨hputs, _⟩ | ⟨hputs, _⟩
    · exact Or.inl hputs
    · exact Or.inr hputs

/-- Two callers register a service at one URL, and the second one stores a snapshot there: the registration that comes first succeeds and
the other one does not. -/
theorem Run.refines_two_callers :
    let url : AccessUrl := ⟨"http://a"⟩
    let other : AccessUrl := ⟨"http://b"⟩
    let first : Caller := .ask (.put (.fresh other)) fun _ => .ask (.put (.fresh url)) fun _ => .done
    let second : Caller := .ask (.put (.fresh url)) fun _ => .ask (.swap url none ⟨0, .empty⟩) fun _ => .ask .getAll fun _ => .done
    ∃ es x, Run ⟨.empty, [first, second]⟩ es x ∧ es.map Event.caller = [0, 1, 0, 1, 1] ∧ (∀ e ∈ es, ¬e.Takes url) ∧
      puts url es = [true, false] ∧ Directory.Run .empty es x.registry.directory ∧ x.registry.directory.Lists x.registry.getAll ∧
      x.registry.size = 2 := by
  intro url other first second
  have hrun : ∃ es x, Run ⟨.empty, [first, second]⟩ es x ∧ es.map Event.caller = [0, 1, 0, 1, 1] ∧ (∀ e ∈ es, ¬e.Takes url) ∧
      (puts url es).length = 2 ∧ x.registry.size = 2 := by
    refine ⟨_, _, ((((Run.refl.step (.serve _ [] [_] 1 _ _)).step (.serve _ [_] [] 2 _ _)).step (.serve _ [] [_] 3 _ _)).step
      (.serve _ [_] [] 4 _ _)).step (.serve _ [_] [] 5 _ _), rfl, ?_, rfl, rfl⟩
    rintro e he ⟨i, now, s, rfl⟩
    simp at he
  obtain ⟨es, x, hr, hcallers, ht, hlength, hsize⟩ := hrun
  obtain ⟨hmap, _, hlists, _⟩ := hr.refines
  have hputs : puts url es = [true, false] := by
    have hstart : Run ⟨.empty, [first, second]⟩ [] ⟨.empty, [first, second]⟩ := .refl
    obtain ⟨_, _, _, _, honce⟩ := hstart.refines
    rcases honce es x hr url rfl ht with hnil | ⟨n, hn⟩
    · rw [hnil] at hlength
      nomatch hlength
    · obtain rfl : n = 1 := by simpa [hn] using hlength
      exact hn
  exact ⟨es, x, hr, hcallers, ht, hputs, hmap, (hlists _).2 rfl, hsize⟩

end Session

end CatalogSync.Registry
