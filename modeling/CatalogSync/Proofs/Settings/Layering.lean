import CatalogSync.Proofs.Settings.Files
import CatalogSync.Proofs.Settings.Merging
import CatalogSync.Proofs.Settings.Parts

/-!
# Layered settings

Each part of loaded settings is settled by itself: a number or a switch is what its variable says, or else what the file says, or else the
default, and a list of endpoints that no variable leads to is the file's (`Settings.load_layered`).
-/

namespace CatalogSync

/-! ## Variables -/

namespace Surroundings

/-- That no two variables have names that are equal up to the case of letters. -/
def Distinct (s : Surroundings) : Prop := s.environment.Pairwise fun a b => Text.lowercase a.1 ≠ Text.lowercase b.1

/-- The value of a variable as a setting. -/
def settingOf (value : String) : Setting := .scalar (some "the environment") (.text value)

/-- What a variable sets, if it is one with a setting. -/
def entry? (e : String × String) : Option (String × Setting) := (key? e.1).map fun key => (key, settingOf e.2)

/-- The settings of the variables are those of the variables that have a key, in their order. -/
theorem variableSettings_eq (s : Surroundings) : s.variableSettings = s.environment.filterMap entry? := rfl

/-- Where no period comes to stand, there were no two underscores. -/
theorem withPeriods_eq_self {cs : List Char} (h : '.' ∉ withPeriods cs) : withPeriods cs = cs := by
  fun_induction withPeriods cs with
  | case1 cs ih => exact absurd List.mem_cons_self h
  | case2 c cs hne ih => rw [ih fun hm => h (List.mem_cons_of_mem _ hm)]
  | case3 => rfl

/-- The variable of a key in which there are neither periods nor two underscores. -/
theorem key?_eq_some_iff {name key : String} (hkey : '.' ∉ key.toList) (hself : withPeriods key.toList = key.toList) :
    key? name = some key ↔ Text.lowercase name = variableStart ++ key := by
  rw [key?]
  constructor
  · intro h
    split at h
    · rename_i hstart
      obtain ⟨rest, hrest⟩ := List.isPrefixOf_iff_prefix.1 hstart
      have hdrop : ((Text.lowercase name).toList.drop variableStart.length) = rest := by
        rw [← hrest, ← String.length_toList, List.drop_left]
      rw [hdrop] at h
      obtain rfl := Option.some.inj h
      rw [String.toList_ofList] at hkey
      rw [withPeriods_eq_self hkey]
      refine String.toList_inj.1 ?_
      rw [String.toList_append, String.toList_ofList, hrest]
    · nomatch h
  · intro h
    rw [h, String.toList_append]
    have hstart : variableStart.toList.isPrefixOf (variableStart.toList ++ key.toList) = true :=
      List.isPrefixOf_iff_prefix.2 (List.prefix_append _ _)
    rw [if_pos hstart, ← String.length_toList, List.drop_left, hself, String.ofList_toList]

end Surroundings

namespace Settings

/-! ## The sources of a setting -/

/-- The name of the variable of a part, in small letters. -/
def Part.variableName (p : Part) : String := Surroundings.variableStart ++ p.name

/-- A variable has the key of a setting exactly if its name in lower case is the setting's. -/
theorem Part.key?_eq_name_iff {p : Part} {name : String} :
    Surroundings.key? name = some p.name ↔ Text.lowercase name = p.variableName := by
  refine Surroundings.key?_eq_some_iff ?_ ?_ <;> cases p <;> decide

/-- A setting's own name is a path of one field. -/
theorem Part.pathOf_name (p : Part) : PathStep.pathOf p.name = [.field p.name] :=
  PathStep.pathOf_name (List.all_eq_true.1 (by cases p <;> rfl))

/-- The variable of a part, if it is set. -/
def fromVariable? (s : Surroundings) (p : Part) : Option Setting :=
  (s.environment.find? fun e => Text.lowercase e.1 == p.variableName).map fun e => Surroundings.settingOf e.2

/-- What the file at a path holds, if one is given. -/
def fileSettings (path : Option String) (s : Surroundings) : Except SettingsFault (List (String × Setting)) :=
  match path with
  | none => .ok []
  | some path =>
    match s.settingsFile? path with
    | none => .error (.noFile path)
    | some (format, name, text) => format.read name text

/-- The setting that a field has once a file and the variables are merged, unless they cannot be. -/
def merged (file : List (String × Setting)) (s : Surroundings) (name : String) : Option (Option Setting) :=
  (file ++ s.variableSettings).foldlM (Setting.fill name) none

/-! ## When settings are loaded -/

/-- Without what a file holds nothing is loaded. -/
theorem load_of_fault {path : Option String} {s : Surroundings} {fault : SettingsFault} (h : fileSettings path s = .error fault) :
    load path s = some (.error (.settings fault.message)) := by
  cases path with
  | none => nomatch h
  | some path =>
    rw [fileSettings] at h
    rw [load, sources]
    cases hfile : s.settingsFile? path with
    | none =>
      rw [hfile] at h
      cases h
      rfl
    | some found =>
      obtain ⟨format, name, text⟩ := found
      rw [hfile] at h
      dsimp only at h ⊢
      rw [h]
      rfl

/-- What is loaded comes from what a file holds and from the variables. -/
theorem load_of_fileSettings {path : Option String} {s : Surroundings} {file : List (String × Setting)}
    (h : fileSettings path s = .ok file) : load path s = (ofSources [file, s.variableSettings]).map checked := by
  cases path with
  | none =>
    cases h
    rfl
  | some path =>
    rw [fileSettings] at h
    rw [load, sources]
    cases hfile : s.settingsFile? path with
    | none =>
      rw [hfile] at h
      cases h
    | some found =>
      obtain ⟨format, name, text⟩ := found
      rw [hfile] at h
      dsimp only at h ⊢
      rw [h]
      rfl

/-- Settings come of a file and the variables where they can be merged and every part can be converted. -/
theorem ofSources_eq_ok_iff {file : List (String × Setting)} {s : Surroundings} {settings : Settings} :
    ofSources [file, s.variableSettings] = some (.ok settings) ↔
      (∀ name, merged file s name ≠ none) ∧
      ∀ p : Part, ∃ v, merged file s p.name = some v ∧ p.convertOr (default.get p) v = .ok (settings.get p) := by
  have hflatten : [file, s.variableSettings].flatten = file ++ s.variableSettings := by simp
  have hcases := Setting.layered_cases [file, s.variableSettings]
  rw [hflatten] at hcases
  rw [ofSources]
  rcases hcases with ⟨fields, hlayered, hn, hlookup⟩ | ⟨hlayered, name, hname⟩
  · have hmerged : ∀ name, merged file s name = some (fields.lookup name) := hlookup
    simp only [hlayered, Option.map_some, Option.some_inj, Setting.asTable, setAll_eq_ok_iff hn, hmerged]
    simp
  · rw [hlayered]
    refine ⟨fun h => ?_, fun h => absurd hname (h.1 name)⟩
    cases h

/-- Loading succeeds where the sources can be merged, and every part can be converted and passes the check. -/
theorem load_eq_ok_iff {path : Option String} {s : Surroundings} {settings : Settings} :
    load path s = some (.ok settings) ↔ ∃ file, fileSettings path s = .ok file ∧ (∀ name, merged file s name ≠ none) ∧
      ∀ p : Part, ∃ v, merged file s p.name = some v ∧ p.convertOr (default.get p) v = .ok (settings.get p) ∧
        p.Accepts (settings.get p) := by
  have hparts : ∀ file, (∀ p : Part, ∃ v, merged file s p.name = some v ∧ p.convertOr (default.get p) v = .ok (settings.get p) ∧
      p.Accepts (settings.get p)) ↔ (∀ p : Part, ∃ v, merged file s p.name = some v ∧
        p.convertOr (default.get p) v = .ok (settings.get p)) ∧ settings.validate = .ok () := by
    intro file
    rw [validate_eq_ok_iff, ← forall_and]
    exact forall_congr' fun p => ⟨fun ⟨v, hv, hx, ha⟩ => ⟨⟨v, hv, hx⟩, ha⟩, fun ⟨⟨v, hv, hx⟩, ha⟩ => ⟨v, hv, hx, ha⟩⟩
  constructor
  · intro h
    cases hfile : fileSettings path s with
    | error fault =>
      rw [load_of_fault hfile] at h
      nomatch h
    | ok file =>
      rw [load_of_fileSettings hfile, Option.map_eq_some_iff] at h
      obtain ⟨x, hx, hchecked⟩ := h
      cases x with
      | error fault => nomatch hchecked
      | ok found =>
        obtain ⟨_, hvalid, hsame⟩ := exists_ok_of_bind hchecked
        obtain rfl := Except.ok.inj hsame
        obtain ⟨hmerged, hconvert⟩ := ofSources_eq_ok_iff.1 hx
        exact ⟨file, rfl, hmerged, (hparts file).2 ⟨hconvert, hvalid⟩⟩
  · rintro ⟨file, hfile, hmerged, h⟩
    obtain ⟨hconvert, hvalid⟩ := (hparts file).1 h
    rw [load_of_fileSettings hfile, ofSources_eq_ok_iff.2 ⟨hmerged, hconvert⟩, Option.map_some, checked, hvalid]
    rfl

/-! ## The names in a file -/

/-- What a file holds names each setting once. -/
theorem nodup_fileSettings {path : Option String} {s : Surroundings} {file : List (String × Setting)}
    (h : fileSettings path s = .ok file) : (file.map Prod.fst).Nodup := by
  cases path with
  | none =>
    cases h
    exact List.nodup_nil
  | some path =>
    rw [fileSettings] at h
    split at h
    · nomatch h
    · exact SettingsFormat.nodup_read h

variable {s : Surroundings} {p q : Part} {env : List (String × String)}

/-- The name of a part leads to its field and to no other. -/
theorem Part.leadsTo_iff {name : String} : PathStep.LeadsTo p.name name ↔ p.name = name := by
  rw [PathStep.LeadsTo, p.pathOf_name, List.head?_cons, Option.some_inj, PathStep.field.injEq]

/-! ## What a variable sets -/

/-- What is set under the name of a part is set by its variable. -/
theorem mem_filterMap_entry {v : Setting} : (p.name, v) ∈ env.filterMap Surroundings.entry? ↔
    ∃ e ∈ env, Text.lowercase e.1 = p.variableName ∧ v = Surroundings.settingOf e.2 := by
  rw [List.mem_filterMap]
  refine exists_congr fun e => and_congr_right fun _ => ?_
  rw [Surroundings.entry?, Option.map_eq_some_iff]
  constructor
  · rintro ⟨key, hkey, he⟩
    cases he
    exact ⟨Part.key?_eq_name_iff.1 hkey, rfl⟩
  · rintro ⟨hname, rfl⟩
    exact ⟨p.name, Part.key?_eq_name_iff.2 hname, rfl⟩

/-- Variables set scalars. -/
theorem exists_settingOf {e : String × Setting} (h : e ∈ env.filterMap Surroundings.entry?) :
    ∃ value, e.2 = Surroundings.settingOf value := by
  obtain ⟨entry, _, he⟩ := List.mem_filterMap.1 h
  obtain ⟨key, _, rfl⟩ := Option.map_eq_some_iff.1 he
  exact ⟨entry.2, rfl⟩

/-- With distinct variables a setting is the value of the one that is named for it. -/
theorem fromVariable?_eq_some (hs : s.Distinct) {e : String × String} (he : e ∈ s.environment)
    (hname : Text.lowercase e.1 = p.variableName) : fromVariable? s p = some (Surroundings.settingOf e.2) := by
  obtain ⟨before, after, henv⟩ := List.append_of_mem he
  have hbefore : ∀ e' ∈ before, (Text.lowercase e'.1 == p.variableName) = false := by
    intro e' he'
    rw [Surroundings.Distinct, henv, List.pairwise_append] at hs
    exact beq_false_of_ne fun heq => hs.2.2 e' he' e List.mem_cons_self (heq.trans hname.symm)
  rw [fromVariable?, henv, List.find?_append, List.find?_eq_none.2 (by simpa using hbefore), Option.none_or,
    List.find?_cons_of_pos (by simpa using hname)]
  rfl

/-- Without such a variable no setting comes from the environment. -/
theorem fromVariable?_eq_none (h : ∀ e ∈ s.environment, Text.lowercase e.1 ≠ p.variableName) : fromVariable? s p = none := by
  rw [fromVariable?, List.find?_eq_none.2 fun e he heq => h e he (eq_of_beq heq), Option.map_none]

/-- A number or a switch is converted from a scalar. -/
theorem Part.exists_scalar (hp : p.isScalar = true) {v : Setting} {x : p.Value} (h : p.convert v = .ok x) :
    ∃ o y, v = .scalar o y := by
  cases v with
  | scalar o y => exact ⟨o, y, rfl⟩
  | array | table =>
    cases p with
    | services | registries => cases hp
    | syncPeriodSecs | tickTimeoutSecs | onlySubmodels | maxConcurrentTicks => cases h

/-- A number or a switch that can be converted is what its variable says, or no variable that is set after the given entries leads to it. -/
theorem foldlM_fill_cases {es : List (String × Setting)} (hp : p.isScalar = true) {default x : p.Value} {v : Option Setting}
    (hv : (es ++ env.filterMap Surroundings.entry?).foldlM (Setting.fill p.name) none = some v) (h : p.convertOr default v = .ok x) :
    (∃ e ∈ env, Text.lowercase e.1 = p.variableName ∧ v = some (Surroundings.settingOf e.2)) ∨
    (∀ e ∈ env.filterMap Surroundings.entry?, ¬PathStep.LeadsTo e.1 p.name) ∧ es.foldlM (Setting.fill p.name) none = some v := by
  obtain ⟨w, hes, hw⟩ := Setting.exists_foldlM_fill hv
  cases v with
  | none =>
    have hnone := Setting.not_leadsTo_of_foldlM_fill hw
    rw [Setting.foldlM_fill_of_not_leadsTo hnone] at hw
    exact Or.inr ⟨hnone, hes.trans hw⟩
  | some v =>
    obtain ⟨o, y, rfl⟩ := Part.exists_scalar hp h
    rcases Setting.foldlM_fill_eq_scalar hw with hm | ⟨rfl, hempty⟩
    · obtain ⟨e, he, hname, hvalue⟩ := mem_filterMap_entry.1 hm
      exact Or.inl ⟨e, he, hname, congrArg some hvalue⟩
    · refine Or.inr ⟨fun e he hleads => ?_, hes⟩
      obtain ⟨_, _, htable⟩ := hempty e he hleads
      obtain ⟨_, hscalar⟩ := exists_settingOf he
      nomatch hscalar.symm.trans htable

/-- A number or a switch that can be converted is what its variable says, or else what the file says. -/
theorem merged_of_isScalar {file : List (String × Setting)} (hs : s.Distinct) (hn : (file.map Prod.fst).Nodup) (hp : p.isScalar = true)
    {default x : p.Value} {v : Option Setting} (hv : merged file s p.name = some v) (h : p.convertOr default v = .ok x) :
    v = (fromVariable? s p).or (file.lookup p.name) := by
  rw [merged, s.variableSettings_eq] at hv
  rcases foldlM_fill_cases hp hv h with ⟨e, he, hname, rfl⟩ | ⟨hnone, hfile⟩
  · rw [fromVariable?_eq_some hs he hname, Option.some_or]
  · have hvariable : fromVariable? s p = none := fromVariable?_eq_none fun e he hname =>
      hnone _ (mem_filterMap_entry.2 ⟨e, he, hname, rfl⟩) (Part.leadsTo_iff.2 rfl)
    rw [hvariable, Option.none_or]
    cases v with
    | none =>
      refine (Table.lookup_eq_none fun hm => ?_).symm
      obtain ⟨e, he, hname⟩ := List.mem_map.1 hm
      refine Setting.not_leadsTo_of_foldlM_fill hfile e he ?_
      rw [hname]
      exact Part.leadsTo_iff.2 rfl
    | some v =>
      obtain ⟨o, y, rfl⟩ := Part.exists_scalar hp h
      have hm := (Setting.foldlM_fill_eq_scalar hfile).resolve_right fun h => nomatch h.1
      exact (Table.lookup_of_mem hn hm).symm

/-! ## Settings without a variable -/

/-- Surroundings without the variable of a part. -/
def without (s : Surroundings) (p : Part) : Surroundings :=
  ⟨s.files, s.environment.filter fun e => Text.lowercase e.1 ≠ p.variableName⟩

/-- Without the variable of a part, what is set under the name of the part is not set. -/
theorem filter_variableSettings (s : Surroundings) (p : Part) :
    s.variableSettings.filter (fun e => e.1 ≠ p.name) = (without s p).variableSettings := by
  rw [s.variableSettings_eq, Surroundings.variableSettings_eq, without, List.filter_filterMap, List.filterMap_filter]
  refine congrArg (List.filterMap · s.environment) (funext fun e => ?_)
  rw [Surroundings.entry?]
  cases hkey : Surroundings.key? e.1 with
  | none => simp
  | some key =>
    have hiff : key = p.name ↔ Text.lowercase e.1 = p.variableName := by
      rw [← Part.key?_eq_name_iff, hkey, Option.some_inj]
    simp [Option.filter, hiff]

/-- What a field comes to does not depend on the variables of parts with other names. -/
theorem merged_congr {s' : Surroundings} (file : List (String × Setting)) {name : String} (hname : p.name ≠ name)
    (h : without s' p = without s p) : merged file s' name = merged file s name := by
  have hfilter : ∀ e : String × Setting, decide (e.1 ≠ p.name) = false → ¬PathStep.LeadsTo e.1 name := by
    intro e he
    have hkey : e.1 = p.name := by simpa using he
    rw [hkey]
    exact fun hleads => hname (Part.leadsTo_iff.1 hleads)
  have hsame : s'.variableSettings.filter (fun e => e.1 ≠ p.name) = s.variableSettings.filter (fun e => e.1 ≠ p.name) := by
    rw [filter_variableSettings, filter_variableSettings, h]
  rw [merged, merged, List.foldlM_append, List.foldlM_append]
  refine bind_congr fun v => ?_
  rw [← Setting.foldlM_fill_filter hfilter, hsame, Setting.foldlM_fill_filter hfilter]

/-- The settings of files depend on the files only. -/
theorem fileSettings_congr {s' : Surroundings} (path : Option String) (h : s'.files = s.files) :
    fileSettings path s' = fileSettings path s := by
  cases s
  cases s'
  cases h
  rfl

/-! ## Layered settings -/

/-- How settings are layered. -/
structure Layered (path : Option String) (s : Surroundings) (file : List (String × Setting)) (settings : Settings) : Prop where
  /-- A number or a switch is what its variable says, or else what the file says, or else its default. -/
  scalar : ∀ p : Part, p.isScalar = true →
    p.convertOr (default.get p) ((fromVariable? s p).or (file.lookup p.name)) = .ok (settings.get p)
  /-- A list of endpoints that no variable leads to is what the file says, and empty where the file says nothing about it. -/
  list : ∀ p : Part, p.isScalar = false → (∀ e ∈ s.variableSettings, ¬PathStep.LeadsTo e.1 p.name) →
    (∃ layer, Setting.layered [file] = some layer ∧
      p.convertOr (default.get p) (layer.asTable.2.lookup p.name) = .ok (settings.get p)) ∧
    ((∀ e ∈ file, PathStep.LeadsTo e.1 p.name → e.1 = p.name) →
      p.convertOr (default.get p) (file.lookup p.name) = .ok (settings.get p))
  /-- Where the variable of a part is set, changed or taken away, no other part changes. -/
  others : ∀ (p : Part) (s' : Surroundings) (settings' : Settings), without s' p = without s p → load path s' = some (.ok settings') →
    ∀ q, q ≠ p → settings'.get q = settings.get q
  /-- A variable of a number or a switch may be set to whatever can be converted and passes the check. -/
  accepts : ∀ p : Part, p.isScalar = true → ∀ before old after name value v,
    s.environment = before ++ old ++ after → (∀ e ∈ old, Text.lowercase e.1 = p.variableName) →
    Text.lowercase name = p.variableName → Surroundings.Distinct ⟨s.files, before ++ (name, value) :: after⟩ →
    p.convert (Surroundings.settingOf value) = .ok v → p.Accepts v →
    load path ⟨s.files, before ++ (name, value) :: after⟩ = some (.ok (settings.set p v))
  positive : 0 < settings.syncPeriodSecs ∧ 0 < settings.tickTimeoutSecs ∧ 0 < settings.maxConcurrentTicks

section

variable {path : Option String} {file : List (String × Setting)} {settings : Settings}

/-- A field that no variable leads to is what the file alone makes of it. -/
theorem exists_layered_of_not_leadsTo (hmerged : ∀ name, merged file s name ≠ none)
    (h : ∀ e ∈ s.variableSettings, ¬PathStep.LeadsTo e.1 p.name) :
    ∃ layer, Setting.layered [file] = some layer ∧ merged file s p.name = some (layer.asTable.2.lookup p.name) := by
  have hcases := Setting.layered_cases [file]
  rw [List.flatten_singleton] at hcases
  rcases hcases with ⟨fields, hlayered, _, hlookup⟩ | ⟨_, name, hname⟩
  · refine ⟨_, hlayered, ?_⟩
    rw [merged, List.foldlM_append, hlookup]
    exact Setting.foldlM_fill_of_not_leadsTo h
  · refine absurd ?_ (hmerged name)
    rw [merged, List.foldlM_append, hname]
    rfl

/-- No part is converted from a table. -/
theorem Part.convert_table_ne (p : Part) (o : Option String) (fields : List (String × Setting)) (x : p.Value) :
    p.convert (.table o fields) ≠ .ok x := by
  intro h
  cases p <;> cases h

/-- A part that no variable leads to, and that the file sets once under its name, is what the file says. -/
theorem convertOr_lookup {default x : p.Value} {v : Option Setting} (hn : (file.map Prod.fst).Nodup)
    (hfile : ∀ e ∈ file, PathStep.LeadsTo e.1 p.name → e.1 = p.name)
    (hv : file.foldlM (Setting.fill p.name) none = some v) (h : p.convertOr default v = .ok x) :
    p.convertOr default (file.lookup p.name) = .ok x := by
  obtain rfl := Option.some.inj ((Setting.foldlM_fill_of_named hn p.pathOf_name hfile).symm.trans hv)
  cases hlookup : file.lookup p.name with
  | none => rwa [hlookup] at h
  | some v =>
    rw [hlookup] at h
    cases v with
    | scalar | array => exact h
    | table o incoming =>
      obtain ⟨o', fields, htable⟩ : ∃ o' fields, Setting.setFields incoming Setting.empty = .table o' fields :=
        Setting.exists_setFields (Or.inr ⟨none, [], rfl⟩)
      have hconvert : p.convert (Setting.setFields incoming Setting.empty) = .ok x := h
      exact absurd (htable ▸ hconvert) (p.convert_table_ne o' fields x)

/-- The variable of a number or a switch may be set to whatever can be converted and passes the check. -/
theorem load_set (hmerged : ∀ name, merged file s name ≠ none)
    (hload : ∀ q : Part, ∃ v, merged file s q.name = some v ∧ q.convertOr (default.get q) v = .ok (settings.get q) ∧
      q.Accepts (settings.get q))
    (hfile : fileSettings path s = .ok file) (hp : p.isScalar = true) {before old after : List (String × String)}
    {name value : String} {v : p.Value} (henv : s.environment = before ++ old ++ after)
    (hold : ∀ e ∈ old, Text.lowercase e.1 = p.variableName) (hname : Text.lowercase name = p.variableName)
    (hd : Surroundings.Distinct ⟨s.files, before ++ (name, value) :: after⟩)
    (hv : p.convert (Surroundings.settingOf value) = .ok v) (ha : p.Accepts v) :
    load path ⟨s.files, before ++ (name, value) :: after⟩ = some (.ok (settings.set p v)) := by
  -- the part itself is what the variable says
  have hpart : merged file ⟨s.files, before ++ (name, value) :: after⟩ p.name = some (some (Surroundings.settingOf value)) := by
    obtain ⟨w, hw, hconvert, _⟩ := hload p
    rw [merged, s.variableSettings_eq, henv, List.filterMap_append, List.filterMap_append, List.append_assoc,
      ← List.append_assoc] at hw
    obtain ⟨w', hbefore, hrest⟩ := Setting.exists_foldlM_fill hw
    -- nothing after the variable's place leads to the part, or it could not be converted before
    have hafter : ∀ e ∈ after.filterMap Surroundings.entry?, ¬PathStep.LeadsTo e.1 p.name := by
      rw [← List.append_assoc] at hw
      rcases foldlM_fill_cases hp hw hconvert with ⟨e, he, hsame, _⟩ | ⟨hnone, _⟩
      · have hpairs := (List.pairwise_append.1 hd).2.1
        exact absurd (hname.trans hsame.symm) ((List.pairwise_cons.1 hpairs).1 e he)
      · exact hnone
    have hentry : Surroundings.entry? (name, value) = some (p.name, Surroundings.settingOf value) := by
      rw [Surroundings.entry?, Part.key?_eq_name_iff.2 hname, Option.map_some]
    rw [merged, Surroundings.variableSettings_eq, List.filterMap_append, List.filterMap_cons_some hentry, ← List.append_assoc,
      List.foldlM_append, hbefore, Option.bind_eq_bind, Option.bind_some, List.foldlM_cons, Setting.fill_of_pathOf p.pathOf_name]
    exact Setting.foldlM_fill_of_not_leadsTo hafter
  have hothers : ∀ field, p.name ≠ field →
      merged file ⟨s.files, before ++ (name, value) :: after⟩ field = merged file s field := by
    intro field hfield
    refine merged_congr file hfield ?_
    have hremoved : old.filter (fun e => Text.lowercase e.1 ≠ p.variableName) = [] := List.filter_eq_nil_iff.2 (by simpa using hold)
    simp only [without, henv, List.filter_append, hremoved, List.append_nil]
    rw [List.filter_cons_of_neg (by simpa using hname)]
  refine load_eq_ok_iff.2 ⟨file, (fileSettings_congr path rfl).trans hfile, fun field => ?_, fun q => ?_⟩
  · by_cases hfield : p.name = field
    · rw [← hfield, hpart]
      exact Option.some_ne_none _
    · rw [hothers field hfield]
      exact hmerged field
  · by_cases hq : q = p
    · subst hq
      refine ⟨_, hpart, ?_⟩
      rw [get_set_self]
      exact ⟨hv, ha⟩
    · rw [hothers q.name fun he => hq (Part.name_injective he).symm, get_set_of_ne v hq]
      exact hload q

/-- Loaded settings are layered: variables before the file and the file before the defaults, each part by itself. -/
theorem load_layered (hd : s.Distinct) (h : load path s = some (.ok settings)) :
    ∃ file, fileSettings path s = .ok file ∧ Layered path s file settings := by
  obtain ⟨file, hfile, hmerged, hload⟩ := load_eq_ok_iff.1 h
  have hn := nodup_fileSettings hfile
  refine ⟨file, hfile, ?_, ?_, ?_, ?_, ?_⟩
  · intro p hp
    obtain ⟨v, hv, hconvert, _⟩ := hload p
    rwa [merged_of_isScalar hd hn hp hv hconvert] at hconvert
  · intro p _ hvariables
    obtain ⟨v, hv, hconvert, _⟩ := hload p
    refine ⟨?_, fun hnamed => ?_⟩
    · obtain ⟨layer, hlayered, hlookup⟩ := exists_layered_of_not_leadsTo hmerged hvariables
      obtain rfl := Option.some.inj (hv.symm.trans hlookup)
      exact ⟨layer, hlayered, hconvert⟩
    · obtain ⟨w, hw, hrest⟩ := Setting.exists_foldlM_fill hv
      rw [Setting.foldlM_fill_of_not_leadsTo hvariables] at hrest
      exact convertOr_lookup hn hnamed (hw.trans hrest) hconvert
  · -- without the variable of one part the others are merged from the same layers
    intro p s' settings' hwithout h' q hq
    obtain ⟨file', hfile', _, hload'⟩ := load_eq_ok_iff.1 h'
    have hfiles : (without s' p).files = (without s p).files := by rw [hwithout]
    have hsame : fileSettings path s' = fileSettings path s := fileSettings_congr path hfiles
    obtain rfl : file' = file := Except.ok.inj (hfile'.symm.trans (hsame.trans hfile))
    obtain ⟨v, hv, hconvert, _⟩ := hload q
    obtain ⟨v', hv', hconvert', _⟩ := hload' q
    rw [merged_congr file' (fun he => hq (Part.name_injective he).symm) hwithout, hv] at hv'
    obtain rfl := Option.some.inj hv'
    exact Except.ok.inj (hconvert'.symm.trans hconvert)
  · intro p hp before old after name value v henv hold hname hdistinct hv ha
    exact load_set hmerged hload hfile hp henv hold hname hdistinct hv ha
  · obtain ⟨_, _, _, hperiod⟩ := hload .syncPeriodSecs
    obtain ⟨_, _, _, htimeout⟩ := hload .tickTimeoutSecs
    obtain ⟨_, _, _, hmax⟩ := hload .maxConcurrentTicks
    exact ⟨hperiod, htimeout, hmax⟩

end

/-- A TOML file with a service, and two variables, of which one is written in small letters. The period is the file's, the time limit
and the switch are those of the variables, and the number of ticks is the default. -/
theorem load_layered_toml :
    let path : Option String := some "conf/sync"
    let text : String := "sync_period_secs = 20\ntick_timeout_secs = 7\n\n[[services]]\nurl = \"http://host\"\n"
    let s : Surroundings := ⟨[("conf/sync.toml", text)], [("AAS_SYNC__TICK_TIMEOUT_SECS", "5"), ("aas_sync__only_submodels", "Yes")]⟩
    ∃ settings file, s.Distinct ∧ load path s = some (.ok settings) ∧ fileSettings path s = .ok file ∧ Layered path s file settings ∧
      settings.syncPeriodSecs = 20 ∧ settings.tickTimeoutSecs = 5 ∧ settings.onlySubmodels = true ∧ settings.maxConcurrentTicks = 16 ∧
      settings.services.map (fun e => e.url.text) = ["http://host/"] := by
  intro path text s
  have hd : s.Distinct := List.pairwise_pair.2 (by decide)
  have hloaded : ((load path s).bind Except.toOption).map (fun x => (x.syncPeriodSecs, x.tickTimeoutSecs, x.onlySubmodels,
      x.maxConcurrentTicks, x.services.map (fun e => e.url.text))) = some (20, 5, true, 16, ["http://host/"]) := by
    decide +kernel
  obtain ⟨settings, hsome, hx⟩ := Option.map_eq_some_iff.1 hloaded
  obtain ⟨r, hr, hok⟩ := Option.bind_eq_some_iff.1 hsome
  obtain rfl : r = .ok settings := by
    cases r with
    | error e => nomatch hok
    | ok x => exact congrArg _ (Option.some.inj hok)
  obtain ⟨hperiod, htimeout, honly, hmax, hservices⟩ : _ ∧ _ ∧ _ ∧ _ ∧ _ := by simpa only [Prod.mk.injEq] using hx
  obtain ⟨file, hfile, hlayered⟩ := load_layered hd hr
  exact ⟨settings, file, hd, hr, hfile, hlayered, hperiod, htimeout, honly, hmax, hservices⟩

end Settings

end CatalogSync
