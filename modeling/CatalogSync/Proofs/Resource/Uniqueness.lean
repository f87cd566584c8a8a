import Mathlib.Data.List.Nodup
import CatalogSync.ChangeSet

/-!
# Graphs in which no reference occurs twice

`Graph.validate` accepts exactly the graphs whose walk repeats no reference (`Graph.validate_eq_ok_iff`), and refuses the others for the
first reference that occurred before (`Graph.validate_eq_error`). In a graph that is accepted a reference has at most one resource, so
`Graph.contentAt?` is a look-up in the walk seen as a finite map.
-/

namespace CatalogSync

namespace Graph

/-- No reference is repeated exactly if none occurs twice and none occurs among those seen before. -/
theorem firstRepeated_eq_none_iff (seen rs : List Reference) :
    firstRepeated seen rs = none ↔ rs.Nodup ∧ ∀ r ∈ rs, r ∉ seen := by
  induction rs generalizing seen with
  | nil => simp [firstRepeated]
  | cons r rs ih =>
    by_cases hr : r ∈ seen
    · simp [firstRepeated, hr]
    · simp only [firstRepeated, List.contains_eq_mem, hr, decide_false, Bool.false_eq_true, if_false, ih,
        List.nodup_cons, List.mem_cons]
      constructor
      · rintro ⟨hn, hd⟩
        refine ⟨⟨fun hm => hd r hm (Or.inl rfl), hn⟩, ?_⟩
        rintro x (rfl | hx)
        · exact hr
        · exact fun hs => hd x hx (Or.inr hs)
      · rintro ⟨⟨hm, hn⟩, hd⟩
        refine ⟨hn, fun x hx => ?_⟩
        rintro (rfl | hs)
        · exact hm hx
        · exact hd x (Or.inr hx) hs

/-- The reference that is found repeated is the first one that occurred before it. -/
theorem firstRepeated_eq_some {seen rs : List Reference} {r : Reference} (h : firstRepeated seen rs = some r) :
    ∃ before after, rs = before ++ r :: after ∧ before.Nodup ∧ (∀ x ∈ before, x ∉ seen) ∧ (r ∈ seen ∨ r ∈ before) := by
  induction rs generalizing seen with
  | nil => nomatch h
  | cons s rs ih =>
    by_cases hs : s ∈ seen
    · obtain rfl : s = r := by simpa [firstRepeated, hs] using h
      exact ⟨[], rs, rfl, List.nodup_nil, List.forall_mem_nil _, Or.inl hs⟩
    · have h' : firstRepeated (s :: seen) rs = some r := by simpa [firstRepeated, hs] using h
      obtain ⟨before, after, rfl, hnodup, hnew, hr⟩ := ih h'
      have hsbefore : s ∉ before := fun hm => hnew s hm List.mem_cons_self
      refine ⟨s :: before, after, rfl, List.nodup_cons.2 ⟨hsbefore, hnodup⟩, ?_, ?_⟩
      · exact List.forall_mem_cons.2 ⟨hs, fun x hx hseen => hnew x hx (List.mem_cons_of_mem _ hseen)⟩
      · rw [List.mem_cons] at hr ⊢
        tauto

/-- There is no repeated reference exactly if all references are distinct. -/
theorem repeated?_eq_none_iff (g : Graph) : g.repeated? = none ↔ g.references.Nodup := by
  simp [repeated?, firstRepeated_eq_none_iff]

/-- Graphs with distinct references are valid, and no others. -/
theorem validate_eq_ok_iff (g : Graph) : g.validate = .ok () ↔ g.references.Nodup := by
  rw [← repeated?_eq_none_iff]
  unfold validate
  cases g.repeated? <;> simp

/-- A graph is refused exactly if it repeats a reference. -/
theorem validate_eq_error_iff (g : Graph) : (∃ e, g.validate = .error e) ↔ ¬ g.references.Nodup := by
  rw [← validate_eq_ok_iff]
  cases h : g.validate with
  | ok u => simp
  | error e => simp

/-- A graph that is refused is so for the first reference of its walk that occurred before. -/
theorem validate_eq_error {g : Graph} {e : ModelError} (h : g.validate = .error e) :
    ∃ before r after, g.references = before ++ r :: after ∧ before.Nodup ∧ r ∈ before ∧ e = .duplicateReference r := by
  unfold validate at h
  split at h
  · rename_i r hr
    obtain ⟨before, after, hrefs, hnodup, _, hseen | hbefore⟩ := firstRepeated_eq_some hr
    · nomatch hseen
    · exact ⟨before, r, after, hrefs, hnodup, hbefore, (Except.error.inj h).symm⟩
  · nomatch h

/-- Two resources of one reference are the same resource, where no reference occurs twice. -/
theorem eq_of_reference_eq {g : Graph} (hg : g.references.Nodup) {x y : Resource} (hx : x ∈ g.walk) (hy : y ∈ g.walk)
    (h : x.reference = y.reference) : x = y :=
  List.inj_on_of_nodup_map hg hx hy h

/-- The content at a reference is that of some resource of the walk. -/
theorem exists_of_contentAt? {g : Graph} {r : Reference} {c : Json} (h : g.contentAt? r = some c) :
    ∃ x ∈ g.walk, x.reference = r ∧ x.content = c := by
  unfold contentAt? at h
  obtain ⟨x, hx, rfl⟩ := Option.map_eq_some_iff.1 h
  exact ⟨x, List.mem_of_find?_eq_some hx, by simpa using List.find?_some hx, rfl⟩

/-- Where no reference occurs twice, a resource of the walk has the content at its reference. -/
theorem contentAt?_reference {g : Graph} (hg : g.references.Nodup) {x : Resource} (hx : x ∈ g.walk) :
    g.contentAt? x.reference = some x.content := by
  cases h : g.contentAt? x.reference with
  | some c =>
    obtain ⟨y, hy, hr, rfl⟩ := exists_of_contentAt? h
    rw [eq_of_reference_eq hg hy hx hr]
  | none =>
    simp only [contentAt?, Option.map_eq_none_iff, List.find?_eq_none] at h
    exact absurd (beq_self_eq_true _) (h x hx)

/-- The contents of a graph without repeated references agree with a resource of equal content at its reference. -/
theorem agrees_contentAt?_iff {g : Graph} (hg : g.references.Nodup) (x : Resource) :
    agrees g.contentAt? x = true ↔ ∃ y ∈ g.walk, y.reference = x.reference ∧ y.content.same x.content = true := by
  constructor
  · intro h
    unfold agrees at h
    split at h
    · rename_i c hc
      obtain ⟨y, hy, hr, rfl⟩ := exists_of_contentAt? hc
      exact ⟨y, hy, hr, h⟩
    · nomatch h
  · rintro ⟨y, hy, hr, hc⟩
    rw [agrees, ← hr, contentAt?_reference hg hy]
    exact hc

/-- Trees one after the other are walked one after the other. -/
theorem walkStack_append (xs ys : List Resource) : walkStack (xs ++ ys) = walkStack xs ++ walkStack ys := by
  induction xs using walkStack.induct with
  | case1 => simp [walkStack]
  | case2 r rest ih => rw [List.cons_append, walkStack, walkStack, ← List.append_assoc, ih, List.cons_append]

/-- Roots that are left out are left out of the walk, with everything below them. -/
theorem walkStack_filter_sublist (keep : Resource → Bool) (rs : List Resource) :
    (walkStack (rs.filter keep)).Sublist (walkStack rs) := by
  induction rs with
  | nil => exact List.Sublist.refl _
  | cons r rest ih =>
    have hcons : ∀ rest, walkStack (r :: rest) = walkStack [r] ++ walkStack rest := fun rest => walkStack_append [r] rest
    rw [List.filter_cons, hcons rest]
    split
    · rw [hcons]
      exact ih.append_left _
    · exact ih.trans (List.sublist_append_right _ _)

/-- A graph that repeats no reference repeats none with only some of its roots. -/
theorem nodup_references_retainKinds {g : Graph} (hg : g.references.Nodup) (kinds : List ResourceKind) :
    (g.retainKinds kinds).references.Nodup :=
  hg.sublist ((walkStack_filter_sublist _ g.roots).map _)

/-- The reference that a graph is refused for is the first that it repeats. -/
theorem repeated?_of_validate_eq_error {g : Graph} {r : Reference} (h : g.validate = .error (.duplicateReference r)) :
    g.repeated? = some r := by
  unfold validate at h
  split at h
  · rename_i r' hr
    cases h
    exact hr
  · nomatch h

end Graph

end CatalogSync
