import Mathlib.Data.List.Induction
import Mathlib.Data.List.TakeWhile
import CatalogSync.Proofs.Table
import CatalogSync.Settings.Layers

/-!
# Merging settings

The layers of settings are merged field by field: what comes to stand in a field is settled by the entries alone whose keys lead to the
field, and the layers can be merged if that goes well for each field (`Setting.layered_cases`). Where a scalar comes to stand in a field,
it is the value of the last of the entries that is more than an empty table, and its key is the name of the field
(`Setting.foldlM_fill_eq_scalar`).
-/

namespace CatalogSync

/-! ## Paths -/

namespace PathStep

/-- That a key leads to the field of a name, or to a place in it. -/
def LeadsTo (key name : String) : Prop := (pathOf key).head? = some (.field name)

/-- A key is a field's name, or a name and the steps that are read after it. -/
theorem pathOf_cases (key : String) :
    pathOf key = [.field key] ∨
      ∃ steps, readSteps key.toList.length (key.toList.dropWhile isNameChar) = some steps ∧
        pathOf key = .field (String.ofList (key.toList.takeWhile isNameChar)) :: steps := by
  rw [pathOf]
  split
  · exact Or.inl rfl
  · split
    · exact Or.inr ⟨_, ‹_›, rfl⟩
    · exact Or.inl rfl

/-- Each key leads to one field. -/
theorem exists_pathOf (key : String) : ∃ name rest, pathOf key = .field name :: rest := by
  rcases pathOf_cases key with h | ⟨steps, _, h⟩
  · exact ⟨_, _, h⟩
  · exact ⟨_, _, h⟩

/-- Only the empty text is a path without steps. -/
theorem readSteps_eq_nil {fuel : Nat} {cs : List Char} (h : readSteps fuel cs = some []) : cs = [] := by
  unfold readSteps at h
  split at h
  · rfl
  · nomatch h
  · split at h
    · nomatch h
    · simp at h
  · split at h
    · nomatch h
    · simp at h
  · nomatch h

/-- A key that leads to a field and no further is the name of the field. -/
theorem eq_of_pathOf {key name : String} (h : pathOf key = [.field name]) : key = name := by
  rcases pathOf_cases key with hkey | ⟨steps, hsteps, hkey⟩
  · cases hkey.symm.trans h
    rfl
  · obtain ⟨hname, rfl⟩ := List.cons.inj (hkey.symm.trans h)
    have hall := List.dropWhile_eq_nil_iff.1 (readSteps_eq_nil hsteps)
    rw [List.takeWhile_eq_self_iff.2 hall, String.ofList_toList] at hname
    exact PathStep.field.inj hname

/-- A name leads to its field. -/
theorem pathOf_name {name : String} (h : ∀ c ∈ name.toList, isNameChar c = true) : pathOf name = [.field name] := by
  rcases pathOf_cases name with hname | ⟨steps, hsteps, hname⟩
  · exact hname
  · rw [List.dropWhile_eq_nil_iff.2 h, readSteps] at hsteps
    obtain rfl := Option.some.inj hsteps
    rw [hname, List.takeWhile_eq_self_iff.2 h, String.ofList_toList]

end PathStep

namespace Setting

/-! ## Putting a value in its place -/

/-- What a field comes to when a value is set in it, under its own name. -/
def whole (v : Setting) (old : Option Setting) : Setting :=
  match v with
  | table _ incoming => setFields incoming (old.getD empty)
  | v => v

/-- What a field comes to when a value is set at a place in it, unless there is no such place. -/
def place (v : Setting) : List PathStep → Option Setting → Option Setting
  | [], old => some (whole v old)
  | rest, old => setPath v rest (old.getD nothing)

/-- What the field of a name comes to by one more entry. -/
def fill (name : String) (old : Option Setting) (entry : String × Setting) : Option (Option Setting) :=
  match PathStep.pathOf entry.1 with
  | .field n :: rest => if n = name then (place entry.2 rest old).map some else some old
  | _ => some old

/-- A field that is put is there, and the others are as they were. -/
theorem lookup_putField (name key : String) (v : Setting) (fields : List (String × Setting)) :
    (putField name v fields).lookup key = if key = name then some v else fields.lookup key := by
  induction fields with
  | nil =>
    by_cases hk : key = name
    · simp [putField, hk]
    · have hne : (key == name) = false := beq_false_of_ne hk
      simp [putField, List.lookup_cons, hk, hne]
  | cons field rest ih =>
    obtain ⟨k, x⟩ := field
    rw [putField]
    by_cases hk : k = name
    · subst hk
      rw [if_pos rfl, List.lookup_cons, List.lookup_cons]
      by_cases hkey : key = k
      · simp [hkey]
      · simp [hkey, beq_false_of_ne hkey]
    · rw [if_neg hk, List.lookup_cons, List.lookup_cons, ih]
      by_cases hkey : key = k
      · simp [hkey, hk]
      · simp [beq_false_of_ne hkey]

/-- The names of fields are those that were there and the one that is put. -/
theorem mem_keys_putField {name key : String} {v : Setting} {fields : List (String × Setting)} :
    key ∈ (putField name v fields).map Prod.fst ↔ key = name ∨ key ∈ fields.map Prod.fst := by
  induction fields with
  | nil => simp [putField]
  | cons field rest ih =>
    obtain ⟨k, x⟩ := field
    rw [putField]
    split
    · subst_vars
      simp
    · rw [List.map_cons, List.mem_cons, ih, List.map_cons, List.mem_cons]
      exact or_left_comm

/-- A field that is put takes the place of the one of its name. -/
theorem nodup_putField {fields : List (String × Setting)} (h : (fields.map Prod.fst).Nodup) (name : String) (v : Setting) :
    ((putField name v fields).map Prod.fst).Nodup := by
  induction fields with
  | nil => exact List.pairwise_singleton _ name
  | cons field rest ih =>
    obtain ⟨k, x⟩ := field
    rw [List.map_cons, List.nodup_cons] at h
    rw [putField]
    split
    · exact List.nodup_cons.2 h
    · rename_i hk
      refine List.nodup_cons.2 ⟨fun hm => ?_, ih h.2⟩
      exact (mem_keys_putField.1 hm).elim hk h.1

/-- What a path sets in a table, it sets in the field that it leads to. -/
theorem setPath_field (v : Setting) (name : String) (rest : List PathStep) (o : Option String) (fields : List (String × Setting)) :
    setPath v (.field name :: rest) (table o fields) =
      (place v rest (fields.lookup name)).map fun w => table o (putField name w fields) := by
  cases rest with
  | nil => cases v <;> simp [setPath, setField, place, whole, asTable]
  | cons step rest =>
    simp only [setPath, place, asTable, Option.map_eq_bind]
    rfl

section

variable {name key : String} {v : Setting} {old : Option Setting} {entry : String × Setting}

/-! ## One part of the settings -/

/-- An entry sets its value at the place that its key leads to. -/
theorem fill_of_pathOf {rest : List PathStep} (h : PathStep.pathOf key = .field name :: rest) :
    fill name old (key, v) = (place v rest old).map some := by
  rw [fill, h]
  exact if_pos rfl

/-- An entry that leads elsewhere leaves a field as it is. -/
theorem fill_of_not_leadsTo (h : ¬PathStep.LeadsTo entry.1 name) : fill name old entry = some old := by
  obtain ⟨n, rest, hpath⟩ := PathStep.exists_pathOf entry.1
  rw [PathStep.LeadsTo, hpath, List.head?_cons] at h
  rw [fill, hpath]
  refine if_neg fun he => h ?_
  rw [he]

end

/-- A layer fills each field of a table with the entries that lead to it, and crashes where this goes wrong for one of the fields. -/
theorem layer_cases {fields : List (String × Setting)} (hn : (fields.map Prod.fst).Nodup) (o : Option String)
    (source : List (String × Setting)) :
    (∃ fields', layer (table o fields) source = some (table o fields') ∧ (fields'.map Prod.fst).Nodup ∧
      ∀ name, source.foldlM (fill name) (fields.lookup name) = some (fields'.lookup name)) ∨
    (layer (table o fields) source = none ∧ ∃ name, source.foldlM (fill name) (fields.lookup name) = none) := by
  induction source generalizing fields with
  | nil => exact Or.inl ⟨fields, rfl, hn, fun _ => rfl⟩
  | cons entry source ih =>
    obtain ⟨key, v⟩ := entry
    obtain ⟨n, rest, hpath⟩ := PathStep.exists_pathOf key
    have hlayer : layer (table o fields) ((key, v) :: source) =
        (place v rest (fields.lookup n)).bind fun w => layer (table o (putField n w fields)) source := by
      simp only [layer, List.foldlM_cons, hpath, setPath_field]
      cases place v rest (fields.lookup n) <;> rfl
    cases hplace : place v rest (fields.lookup n) with
    | none =>
      refine Or.inr ⟨by rw [hlayer, hplace]; rfl, n, ?_⟩
      rw [List.foldlM_cons, fill_of_pathOf hpath, hplace]
      rfl
    | some w =>
      have hentry : ∀ name, fill name (fields.lookup name) (key, v) = some ((putField n w fields).lookup name) := by
        intro name
        rw [lookup_putField]
        by_cases hname : name = n
        · subst hname
          rw [if_pos rfl, fill_of_pathOf hpath, hplace, Option.map_some]
        · rw [if_neg hname, fill_of_not_leadsTo]
          rw [PathStep.LeadsTo, hpath]
          simpa using Ne.symm hname
      rw [hlayer, hplace, Option.bind_some]
      simp only [List.foldlM_cons, hentry]
      exact ih (nodup_putField hn n w)

/-! ## Layers of settings -/

theorem layer_append (target : Setting) (source source' : List (String × Setting)) :
    layer target (source ++ source') = (layer target source).bind fun t => layer t source' := List.foldlM_append

/-- Layers are merged as one layer with the entries of all of them. -/
theorem layered_eq_layer (sources : List (List (String × Setting))) : layered sources = layer empty sources.flatten := by
  suffices h : ∀ target : Setting, sources.foldlM layer target = layer target sources.flatten from h empty
  induction sources with
  | nil => exact fun _ => rfl
  | cons source sources ih =>
    intro target
    rw [List.foldlM_cons, List.flatten_cons, layer_append]
    exact bind_congr fun t => ih t

/-- The settings of several sources are a table, and each field of it is filled by the entries of all of them that lead to it; or they
cannot be merged, because this goes wrong for some field. -/
theorem layered_cases (sources : List (List (String × Setting))) :
    (∃ fields, layered sources = some (table none fields) ∧ (fields.map Prod.fst).Nodup ∧
      ∀ name, sources.flatten.foldlM (fill name) none = some (fields.lookup name)) ∨
    (layered sources = none ∧ ∃ name, sources.flatten.foldlM (fill name) none = none) := by
  rw [layered_eq_layer]
  have hnil : (([] : List (String × Setting)).map Prod.fst).Nodup := List.nodup_nil
  exact layer_cases hnil none sources.flatten

/-- What a field is set in is a table. -/
theorem exists_setField (name : String) (v target : Setting) : ∃ o fields, setField name v target = table o fields := by
  cases v <;> exact ⟨_, _, by rw [setField]⟩

/-- What fields are set in is a table if it was one before, or there are such fields. -/
theorem exists_setFields {incoming : List (String × Setting)} {target : Setting}
    (h : incoming ≠ [] ∨ ∃ o fields, target = table o fields) : ∃ o fields, setFields incoming target = table o fields := by
  induction incoming generalizing target with
  | nil =>
    rw [setFields]
    exact h.resolve_left fun hne => hne rfl
  | cons field incoming ih =>
    rw [setFields]
    exact ih (Or.inr (exists_setField field.1 field.2 target))

/-! ## Which value is left -/

/-- What a value is set into at a place is a table or an array. -/
theorem setPath_ne_scalar (v : Setting) (step : PathStep) (rest : List PathStep) (target : Setting) (o : Option String) (x : Scalar) :
    setPath v (step :: rest) target ≠ some (scalar o x) := by
  cases step with
  | field name =>
    cases rest with
    | nil => cases v <;> simp [setPath, setField]
    | cons step rest => simp [setPath, Option.bind_eq_some_iff]
  | index i => cases rest <;> simp [setPath, Option.bind_eq_some_iff]

variable {name : String} {v : Setting} {old : Option Setting} {es es' : List (String × Setting)} {o : Option String} {x : Scalar}

/-- A scalar that comes to stand in a field was set there, or it stood there before an empty table was set. -/
theorem eq_of_place_eq_scalar {rest : List PathStep} (h : place v rest old = some (scalar o x)) :
    rest = [] ∧ (v = scalar o x ∨ (∃ o', v = table o' []) ∧ old = some (scalar o x)) := by
  cases rest with
  | cons step rest => exact absurd h (setPath_ne_scalar v step rest _ o x)
  | nil =>
    refine ⟨rfl, ?_⟩
    have hwhole : whole v old = scalar o x := Option.some.inj h
    cases v with
    | scalar | array => exact Or.inl hwhole
    | table o' incoming =>
      have hfields : setFields incoming (old.getD empty) = scalar o x := hwhole
      cases incoming with
      | cons field incoming =>
        obtain ⟨_, _, htable⟩ : ∃ o fields, setFields (field :: incoming) (old.getD empty) = table o fields :=
          exists_setFields (Or.inl (List.cons_ne_nil field incoming))
        nomatch htable.symm.trans hfields
      | nil =>
        rw [setFields] at hfields
        cases old with
        | none => nomatch hfields
        | some w => exact Or.inr ⟨⟨o', rfl⟩, congrArg some hfields⟩

/-- What goes well for entries goes well for those of them that come first. -/
theorem exists_foldlM_fill {w : Option Setting} (h : (es ++ es').foldlM (fill name) old = some w) :
    ∃ w', es.foldlM (fill name) old = some w' ∧ es'.foldlM (fill name) w' = some w := by
  rw [List.foldlM_append] at h
  exact Option.bind_eq_some_iff.1 h

/-- Settings of other parts leave a part as it is. -/
theorem foldlM_fill_of_not_leadsTo (h : ∀ e ∈ es, ¬PathStep.LeadsTo e.1 name) : es.foldlM (fill name) old = some old := by
  induction es with
  | nil => rfl
  | cons e es ih =>
    obtain ⟨he, hes⟩ := List.forall_mem_cons.1 h
    rw [List.foldlM_cons, fill_of_not_leadsTo he]
    exact ih hes

/-- What leads elsewhere may be left out. -/
theorem foldlM_fill_filter {P : String × Setting → Bool} (h : ∀ e, P e = false → ¬PathStep.LeadsTo e.1 name) :
    (es.filter P).foldlM (fill name) old = es.foldlM (fill name) old := by
  induction es generalizing old with
  | nil => rfl
  | cons e es ih =>
    rw [List.foldlM_cons]
    cases hP : P e with
    | true =>
      rw [List.filter_cons_of_pos hP, List.foldlM_cons]
      exact bind_congr fun _ => ih
    | false =>
      rw [List.filter_cons_of_neg (by simp [hP]), fill_of_not_leadsTo (h e hP)]
      exact ih

/-- A field without a value is one that nothing leads to. -/
theorem not_leadsTo_of_foldlM_fill (h : es.foldlM (fill name) old = some none) : ∀ e ∈ es, ¬PathStep.LeadsTo e.1 name := by
  induction es using List.reverseRecOn with
  | nil => simp
  | append_singleton es e ih =>
    obtain ⟨w, hes, hw⟩ := exists_foldlM_fill h
    simp only [List.foldlM_cons, List.foldlM_nil, bind_pure] at hw
    have he : ¬PathStep.LeadsTo e.1 name := by
      intro hleads
      obtain ⟨n, rest, hpath⟩ := PathStep.exists_pathOf e.1
      rw [PathStep.LeadsTo, hpath] at hleads
      cases hleads
      rw [fill_of_pathOf hpath, Option.map_eq_some_iff] at hw
      obtain ⟨_, _, hnone⟩ := hw
      nomatch hnone
    rw [fill_of_not_leadsTo he] at hw
    exact List.forall_mem_append.2 ⟨ih (hes.trans hw), List.forall_mem_singleton.2 he⟩

/-- A scalar that stands in a field is the value of an entry at the name of the field, or it stood there before, and nothing but empty
tables was set there since. -/
theorem foldlM_fill_eq_scalar (h : es.foldlM (fill name) old = some (some (scalar o x))) :
    (name, scalar o x) ∈ es ∨
      old = some (scalar o x) ∧ ∀ e ∈ es, PathStep.LeadsTo e.1 name → e.1 = name ∧ ∃ o', e.2 = table o' [] := by
  induction es using List.reverseRecOn with
  | nil => exact Or.inr ⟨Option.some.inj h, by simp⟩
  | append_singleton es e ih =>
    obtain ⟨w, hes, hw⟩ := exists_foldlM_fill h
    simp only [List.foldlM_cons, List.foldlM_nil, bind_pure] at hw
    by_cases hleads : PathStep.LeadsTo e.1 name
    · obtain ⟨key, v⟩ := e
      obtain ⟨n, rest, hpath⟩ := PathStep.exists_pathOf key
      obtain rfl : n = name := by simpa [PathStep.LeadsTo, hpath] using hleads
      rw [fill_of_pathOf hpath, Option.map_eq_some_iff] at hw
      obtain ⟨_, hplace, hscalar⟩ := hw
      obtain ⟨rfl, hv⟩ := eq_of_place_eq_scalar (hplace.trans hscalar)
      obtain rfl := PathStep.eq_of_pathOf hpath
      rcases hv with rfl | ⟨hv, rfl⟩
      · exact Or.inl (List.mem_append_right _ List.mem_cons_self)
      · refine (ih hes).imp (List.mem_append_left _) fun hold => ⟨hold.1, ?_⟩
        exact List.forall_mem_append.2 ⟨hold.2, List.forall_mem_singleton.2 fun _ => ⟨rfl, hv⟩⟩
    · rw [fill_of_not_leadsTo hleads] at hw
      refine (ih (hes.trans hw)).imp (List.mem_append_left _) fun hold => ⟨hold.1, ?_⟩
      exact List.forall_mem_append.2 ⟨hold.2, List.forall_mem_singleton.2 fun hl => absurd hl hleads⟩

/-- A field that is set once, under its name, is what it is set to. -/
theorem foldlM_fill_of_named (hn : (es.map Prod.fst).Nodup) (hname : PathStep.pathOf name = [.field name])
    (h : ∀ e ∈ es, PathStep.LeadsTo e.1 name → e.1 = name) :
    es.foldlM (fill name) none = some ((es.lookup name).map (whole · none)) := by
  cases hlookup : es.lookup name with
  | none =>
    refine foldlM_fill_of_not_leadsTo fun e he hleads => ?_
    have hne := List.lookup_eq_none_iff.1 hlookup e he
    exact bne_iff_ne.1 hne (h e he hleads).symm
  | some v =>
    obtain ⟨before, after, rfl⟩ := List.append_of_mem (Table.mem_of_lookup hlookup)
    rw [List.map_append, List.map_cons, List.nodup_append, List.nodup_cons] at hn
    have hbefore : ∀ e ∈ before, ¬PathStep.LeadsTo e.1 name := fun e he hleads =>
      hn.2.2 e.1 (List.mem_map_of_mem he) name List.mem_cons_self (h e (List.mem_append_left _ he) hleads)
    have hafter : ∀ e ∈ after, ¬PathStep.LeadsTo e.1 name := fun e he hleads =>
      hn.2.1.1 (List.mem_map.2 ⟨e, he, h e (List.mem_append_right _ (List.mem_cons_of_mem _ he)) hleads⟩)
    rw [List.foldlM_append, foldlM_fill_of_not_leadsTo hbefore, Option.bind_eq_bind, Option.bind_some, List.foldlM_cons,
      fill_of_pathOf hname]
    exact foldlM_fill_of_not_leadsTo hafter

end Setting

end CatalogSync
