import CatalogSync.Proofs.Table
import CatalogSync.Settings.Load

/-!
# Settings files

A settings file names each of its settings once, in whatever format it is written (`SettingsFormat.nodup_read`): the fields of a JSON
object are kept by their names, and a TOML text that gives a key twice is not well formed.
-/

namespace CatalogSync

/-- What a computation with a step before it comes to. -/
theorem exists_ok_of_bind {ε α β : Type} {x : Except ε α} {f : α → Except ε β} {b : β} (h : (x >>= f) = .ok b) :
    ∃ a, x = .ok a ∧ f a = .ok b := by
  cases x with
  | error e => nomatch h
  | ok a => exact ⟨a, rfl, h⟩

/-! ## TOML -/

namespace Toml

variable {fields fields' : List (String × Value)}

/-- A key is added to a table only if it is not there yet. -/
theorem nodup_addField {place : List Char} {key : String} {v : Value} (hn : (fields.map Prod.fst).Nodup)
    (h : addField place fields key v = .ok fields') : (fields'.map Prod.fst).Nodup := by
  unfold addField at h
  split at h
  · nomatch h
  · rename_i hany
    cases h
    refine Table.nodup_append_singleton hn (fun hm => hany ?_) v
    obtain ⟨e, he, rfl⟩ := List.mem_map.1 hm
    exact List.any_eq_true.2 ⟨e, he, beq_self_eq_true _⟩

/-- The keys of a written table are distinct once it is accepted. -/
theorem nodup_toFields {place : List Char} {ws : List (String × Written)} (hn : (fields.map Prod.fst).Nodup)
    (h : Written.toFields place fields ws = .ok fields') : (fields'.map Prod.fst).Nodup := by
  induction ws generalizing fields with
  | nil =>
    rw [Written.toFields] at h
    cases h
    exact hn
  | cons w ws ih =>
    rw [Written.toFields] at h
    obtain ⟨v, _, h⟩ := exists_ok_of_bind h
    obtain ⟨_, hadd, h⟩ := exists_ok_of_bind h
    exact ih (nodup_addField hn hadd) h

/-- Neither do the tables below it repeat a key of their parent. -/
theorem nodup_subtables {last : List Char} {fuel depth : Nat} {sections : List Section} {keys : List String}
    (hn : (fields.map Prod.fst).Nodup) (h : subtables last fuel depth sections fields keys = .ok fields') :
    (fields'.map Prod.fst).Nodup := by
  induction fuel generalizing fields keys with
  | zero =>
    rw [subtables] at h
    cases h
    exact hn
  | succ fuel ih =>
    cases keys with
    | nil =>
      simp only [subtables] at h
      cases h
      exact hn
    | cons key keys =>
      rw [subtables] at h
      obtain ⟨v, _, h⟩ := exists_ok_of_bind h
      obtain ⟨_, hadd, h⟩ := exists_ok_of_bind h
      exact ih (nodup_addField hn hadd) h

/-- A table is made of distinct keys, its subtables included. -/
theorem nodup_tableOf {last : List Char} {fuel depth : Nat} {isElement : Bool} {sections : List Section}
    (h : tableOf last fuel depth isElement sections = .ok fields) : (fields.map Prod.fst).Nodup := by
  cases fuel with
  | zero =>
    rw [tableOf] at h
    cases h
    exact List.nodup_nil
  | succ fuel =>
    have hnone : (([] : List (String × Value)).map Prod.fst).Nodup := List.nodup_nil
    simp only [tableOf] at h
    split at h
    · exact nodup_subtables hnone h
    · -- the fields of the table's own section come first
      split at h
      · nomatch h
      · obtain ⟨_, hown, h⟩ := exists_ok_of_bind h
        exact nodup_subtables (nodup_toFields hnone hown) h
    · split at h <;> nomatch h

/-- A TOML text holds a table that names each field once. -/
theorem exists_table_of_parse {s : String} {v : Value} (h : parse s = .ok v) :
    ∃ fields, v = .table fields ∧ (fields.map Prod.fst).Nodup := by
  obtain ⟨cs, e, hparse⟩ : ∃ cs e, parse s = (document cs).mapError e := ⟨_, _, rfl⟩
  rw [hparse] at h
  cases hd : document cs with
  | error e =>
    rw [hd] at h
    nomatch h
  | ok w =>
    rw [hd] at h
    cases h
    obtain ⟨sections, _, hd⟩ := exists_ok_of_bind hd
    obtain ⟨fields, htable, hd⟩ := exists_ok_of_bind hd
    cases hd
    exact ⟨fields, rfl, nodup_tableOf htable⟩

end Toml

/-! ## JSON -/

namespace Json

variable {fields : List (String × Json)}

/-- Fields in strictly increasing order of their names. -/
def Ascending (fields : List (String × Json)) : Prop := (fields.map Prod.fst).Pairwise (· < ·)

/-- Inserting a field brings its own key and no other. -/
theorem mem_keys_insertField {name key : String} {v : Json} (h : key ∈ (insertField name v fields).map Prod.fst) :
    key = name ∨ key ∈ fields.map Prod.fst := by
  induction fields with
  | nil => exact Or.inl (List.mem_singleton.1 h)
  | cons field rest ih =>
    obtain ⟨k, x⟩ := field
    rw [insertField] at h
    split at h
    · exact List.mem_cons.1 h
    · split at h
      · exact (List.mem_cons.1 h).imp_right (List.mem_cons_of_mem _)
      · rcases List.mem_cons.1 h with rfl | h
        · exact Or.inr List.mem_cons_self
        · exact (ih h).imp_right (List.mem_cons_of_mem _)

/-- Fields in order stay in order. -/
theorem ascending_insertField (h : Ascending fields) (name : String) (v : Json) : Ascending (insertField name v fields) := by
  induction fields with
  | nil => exact List.pairwise_singleton _ name
  | cons field rest ih =>
    obtain ⟨k, x⟩ := field
    obtain ⟨hk, hrest⟩ := List.pairwise_cons.1 h
    rw [insertField]
    split
    · rename_i hlt
      refine List.pairwise_cons.2 ⟨fun key hkey => ?_, h⟩
      rcases List.mem_cons.1 hkey with rfl | hkey
      · exact hlt
      · exact String.lt_trans hlt (hk key hkey)
    · split
      · subst_vars
        exact h
      · rename_i hlt hne
        refine List.pairwise_cons.2 ⟨fun key hkey => ?_, ih hrest⟩
        rcases mem_keys_insertField hkey with rfl | hkey
        · exact String.not_le.1 fun hle => hne (String.le_antisymm hle (String.not_lt.1 hlt))
        · exact hk key hkey

/-- Inserting all fields sorts them, and keeps one for each key. -/
theorem ascending_sortFields (fields : List (String × Json)) : Ascending (sortFields fields) :=
  List.foldlRecOn (motive := Ascending) fields _ List.Pairwise.nil fun _ h field _ => ascending_insertField h field.1 field.2

/-- That a value, if it is an object, names each field once. -/
def Apart (v : Json) : Prop := ∀ fields, v = .obj fields → (fields.map Prod.fst).Nodup

/-- An object made of fields names each of them once. -/
theorem apart_ofFields (fields : List (String × Json)) : (ofFields fields).Apart := by
  rintro _ ⟨⟩
  exact (ascending_sortFields fields).imp String.ne_of_lt

/-- That what is read is apart. -/
def ReadsApart (r : Parsed Json) : Prop := ∀ v rest, r = .ok (v, rest) → v.Apart

/-- A number has no fields. -/
theorem readsApart_num (n : Number) (rest : List Char) : ReadsApart (.ok (.num n, rest)) := by
  rintro _ _ ⟨⟩ _ ⟨⟩

/-- A fault reads nothing. -/
theorem readsApart_error (e : FaultAt) : ReadsApart (.error e) := by
  rintro _ _ ⟨⟩

/-- A scaled number has no fields, nor has the fault that it is too large. -/
theorem readsApart_scaledOr (negative : Bool) (significand : Nat) (exponent : Int) (cs : List Char) :
    ReadsApart (scaledOr negative significand exponent cs) := by
  unfold scaledOr
  split
  · exact readsApart_num _ _
  · exact readsApart_error _

/-- Nor has a number with an exponent. -/
theorem readsApart_parseExponent (negative : Bool) (significand : Nat) (exponent : Int) (cs : List Char) :
    ReadsApart (parseExponent negative significand exponent cs) := by
  simp only [parseExponent]
  repeat' split
  all_goals first | exact readsApart_scaledOr _ _ _ _ | exact readsApart_num _ _ | exact readsApart_error _

/-- Nor has one whose exponent may be missing. -/
theorem readsApart_parseScale (negative : Bool) (significand : Nat) (exponent : Int) (cs : List Char) :
    ReadsApart (parseScale negative significand exponent cs) := by
  unfold parseScale
  split
  · exact readsApart_parseExponent _ _ _ _
  · exact readsApart_parseExponent _ _ _ _
  · exact readsApart_scaledOr _ _ _ _

/-- Nor has one with a fraction. -/
theorem readsApart_parseFraction (negative : Bool) (significand : Nat) (exponent : Int) (cs : List Char) :
    ReadsApart (parseFraction negative significand exponent cs) := by
  simp only [parseFraction]
  repeat' split
  all_goals first | exact readsApart_parseScale _ _ _ _ | exact readsApart_error _

/-- Nor has any other number. -/
theorem readsApart_parseNumber (negative : Bool) (cs : List Char) : ReadsApart (parseNumber negative cs) := by
  unfold parseNumber
  split
  · exact readsApart_error _
  split
  · exact readsApart_error _
  split
  · exact readsApart_error _
  split
  dsimp only
  split
  · exact readsApart_parseFraction _ _ _ _
  · exact readsApart_parseExponent _ _ _ _
  · exact readsApart_parseExponent _ _ _ _
  · split
    · exact readsApart_scaledOr _ _ _ _
    split
    · exact readsApart_num _ _
    split
    · exact readsApart_scaledOr _ _ _ _
    · exact readsApart_num _ _

/-- A word reads the value it stands for, which has no fields. -/
theorem readsApart_parseWord {value : Json} (h : value.Apart) (word cs : List Char) : ReadsApart (parseWord value word cs) := by
  induction word generalizing cs with
  | nil =>
    rintro _ _ ⟨⟩
    exact h
  | cons w word ih =>
    cases cs with
    | nil => exact readsApart_error _
    | cons c rest =>
      rw [parseWord]
      split
      · exact ih rest
      · exact readsApart_error _

/-- An array has no fields of its own. -/
theorem readsApart_parseItems (fuel depth : Nat) (first : Bool) (acc : List Json) (cs : List Char) :
    ReadsApart (parseItems fuel depth first acc cs) := by
  induction fuel generalizing first acc cs with
  | zero => exact readsApart_error _
  | succ fuel ih =>
    simp only [parseItems]
    repeat' split
    all_goals
      first
      | exact readsApart_error _ | exact ih _ _ _
      | rintro _ _ ⟨⟩ _ ⟨⟩

/-- An object is sorted when it ends, and so names each field once. -/
theorem readsApart_parseFields (fuel depth : Nat) (first : Bool) (acc : List (String × Json)) (cs : List Char) :
    ReadsApart (parseFields fuel depth first acc cs) := by
  induction fuel generalizing first acc cs with
  | zero => exact readsApart_error _
  | succ fuel ih =>
    simp only [parseFields]
    repeat' split
    all_goals
      first
      | exact readsApart_error _ | exact ih _ _ _
      | rintro _ _ ⟨⟩; exact apart_ofFields _

/-- Whatever value is read, if it is an object it names each of its fields once. -/
theorem readsApart_parseValue (fuel depth : Nat) (cs : List Char) : ReadsApart (parseValue fuel depth cs) := by
  cases fuel with
  | zero => exact readsApart_error _
  | succ fuel =>
    unfold parseValue
    split
    · exact readsApart_error _
    · exact readsApart_parseWord (by rintro _ ⟨⟩) _ _
    · exact readsApart_parseWord (by rintro _ ⟨⟩) _ _
    · exact readsApart_parseWord (by rintro _ ⟨⟩) _ _
    · exact readsApart_parseNumber _ _
    · rename_i rest _
      cases parseChars (rest.length + 1) [] rest with
      | error e => exact readsApart_error e
      | ok s => rintro _ _ ⟨⟩ _ ⟨⟩
    · split
      · exact readsApart_error _
      · exact readsApart_parseItems _ _ _ _ _
    · split
      · exact readsApart_error _
      · exact readsApart_parseFields _ _ _ _ _
    · split
      · exact readsApart_parseNumber _ _
      · exact readsApart_error _

/-- A JSON text holds a value that, if it is an object, names each field once. -/
theorem apart_of_parse {s : String} {v : Json} (h : parse s = .ok v) : v.Apart := by
  unfold parse at h
  split at h
  · rename_i w htext
    cases h
    unfold parseText at htext
    split at htext
    · nomatch htext
    · rename_i w rest hvalue
      split at htext
      · cases htext
        exact readsApart_parseValue _ _ _ _ _ hvalue
      · nomatch htext
  · nomatch h

end Json

/-! ## Settings -/

namespace Setting

/-- The settings of a JSON file have the keys it was read with. -/
theorem keys_ofJsonFields (origin : Option String) (fields : List (String × Json)) :
    (ofJsonFields origin fields).map Prod.fst = fields.map Prod.fst := by
  induction fields with
  | nil => rw [ofJsonFields]; rfl
  | cons field rest ih => rw [ofJsonFields, List.map_cons, List.map_cons, ih]

/-- So have those of a TOML file. -/
theorem keys_ofTomlFields (origin : Option String) (fields : List (String × Toml.Value)) :
    (ofTomlFields origin fields).map Prod.fst = fields.map Prod.fst := by
  induction fields with
  | nil => rw [ofTomlFields]; rfl
  | cons field rest ih => rw [ofTomlFields, List.map_cons, List.map_cons, ih]

end Setting

/-- A settings file names each setting once. -/
theorem SettingsFormat.nodup_read {format : SettingsFormat} {file text : String} {fields : List (String × Setting)}
    (h : format.read file text = .ok fields) : (fields.map Prod.fst).Nodup := by
  unfold read at h
  split at h
  · split at h
    · rename_i v hv
      cases h
      have hapart := Json.apart_of_parse hv
      cases v with
      | obj fields =>
        simp only [Setting.ofJson, Setting.asTable, Setting.keys_ofJsonFields]
        exact hapart fields rfl
      | num n =>
        cases n with
        | int n =>
          simp only [Setting.ofJson]
          split <;> exact List.nodup_nil
        | float x => simp only [Setting.ofJson, Setting.asTable, List.map_nil, List.nodup_nil]
      | null | bool | str | arr => simp only [Setting.ofJson, Setting.asTable, List.map_nil, List.nodup_nil]
    · nomatch h
  · split at h
    · rename_i v hv
      cases h
      obtain ⟨fields, rfl, hn⟩ := Toml.exists_table_of_parse hv
      simp only [Setting.ofToml, Setting.asTable, Setting.keys_ofTomlFields]
      exact hn
    · nomatch h

end CatalogSync
