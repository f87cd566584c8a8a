import CatalogSync.ChangeSet
import CatalogSync.Pipeline.Failure
import CatalogSync.Proofs.Catalog.Shelf
import CatalogSync.Proofs.Json.Equality

/-!
# Encodings that are read back

`Faithful encode decode` says that what `encode` writes is read back by `decode` as it was, so that no two values are written
alike, and that encodings are equal as JSON values exactly if the values are. Fields that are left out because they are empty
are read as empty.

Equality of the types with JSON contents is equality of normal forms, as for JSON values themselves, and writing commutes with
taking normal forms. So the equality of encodings comes down to reading back (`Faithful.of_normal`).
-/

namespace CatalogSync

/-! ## Faithful encodings -/

/-- What is written is read back as it was; hence distinct values are written as distinct ones, under either equality. -/
structure Faithful {α : Type} [BEq α] (encode : α → Json) (decode : Decoder α) : Prop where
  /-- A value that was written is read back as it was. -/
  reads : ∀ a, decode (encode a) = .ok a
  /-- No two values are written alike. -/
  injective : Function.Injective encode
  /-- Values are written as equal JSON values exactly if they are equal, with contents compared as JSON values. -/
  reflects : ∀ a b, (encode a == encode b) = (a == b)

/-- A type whose equality is equality of normal forms has a faithful encoding if it is read back and the normal form of what is
written is what is written for the normal form. -/
theorem Faithful.of_normal {α : Type} [BEq α] {encode : α → Json} {decode : Decoder α} (normal : α → α)
    (reads : ∀ a, decode (encode a) = .ok a) (normal_encode : ∀ a, (encode a).normal = encode (normal a))
    (beq_iff : ∀ a b, (a == b) = true ↔ normal a = normal b) : Faithful encode decode := by
  have injective : Function.Injective encode := by
    intro a b h
    have hab : (.ok a : Except Misfit α) = .ok b := by rw [← reads a, h, reads b]
    exact Except.ok.inj hab
  refine ⟨reads, injective, ?_⟩
  intro a b
  rw [Bool.eq_iff_iff, beq_iff]
  calc (encode a == encode b) = true
      ↔ (encode a).normal = (encode b).normal := Json.same_iff _ _
    _ ↔ encode (normal a) = encode (normal b) := by rw [normal_encode, normal_encode]
    _ ↔ normal a = normal b := injective.eq_iff

namespace Json

/-- Normalizing the items of an array one after the other is normalizing each of them. -/
theorem normalItems_eq_map (vs : List Json) : normalItems vs = vs.map normal := by
  induction vs with
  | nil => rfl
  | cons v vs ih => simp [normalItems, ih]

end Json

namespace Decoder

/-- Reading on after what has been read with success. -/
@[simp] theorem ok_bind {ε α β : Type} (a : α) (f : α → Except ε β) : (Except.ok a >>= f) = f a := rfl

/-- A change of what has been read with success. -/
@[simp] theorem map_ok {ε α β : Type} (a : α) (f : α → β) : (f <$> (Except.ok a : Except ε α)) = .ok (f a) := rfl

/-- Items written one by one are read back one by one. -/
theorem items_map {α : Type} (encode : α → Json) {d : Decoder α} (as : List α) (h : ∀ a ∈ as, d (encode a) = .ok a) :
    items d (as.map encode) = .ok as := by
  induction as with
  | nil => rfl
  | cons a as ih =>
    have ha : d (encode a) = .ok a := h a List.mem_cons_self
    have has : items d (as.map encode) = .ok as := ih fun b hb => h b (List.mem_cons_of_mem _ hb)
    simp only [List.map_cons, items, ha, has]
    rfl

/-- A list that is written item by item is read back. -/
theorem list_map {α : Type} (encode : α → Json) {d : Decoder α} (h : ∀ a, d (encode a) = .ok a) (as : List α) :
    list d (.arr (as.map encode)) = .ok as :=
  items_map encode as fun a _ => h a

end Decoder

/-! ## Kinds, severities and references -/

namespace ResourceKind

/-- A kind is read back from its name. -/
theorem decode_toJson (k : ResourceKind) : decode k.toJson = .ok k := by
  cases k <;> rfl

end ResourceKind

namespace Severity

/-- A severity is read back from its name. -/
theorem decode_name (s : Severity) : decode (.str s.name) = .ok s := by
  cases s <;> rfl

end Severity

namespace Reference

/-- A reference is read back, whether or not it names an identifier. -/
theorem decode_toJson (r : Reference) : decode r.toJson = .ok r := by
  obtain ⟨kind, id, path⟩ := r
  have hkind : ResourceKind.decode kind.toJson = .ok kind := ResourceKind.decode_toJson kind
  have hid : Decoder.string (.str id) = .ok id := rfl
  have hpath : Decoder.list Decoder.string (.arr (path.map Json.str)) = .ok path :=
    Decoder.list_map Json.str (fun _ => rfl) path
  unfold toJson isRoot
  cases path with
  | nil => simp [decode, fields, Decoder.record, Decoder.readFields, Decoder.need, hkind, hid]
  | cons s path =>
    simp only [List.map_cons] at hpath
    simp [decode, fields, Decoder.record, Decoder.readFields, Decoder.need, hkind, hid, hpath]

/-- There are no numbers in a reference. -/
theorem normal_toJson (r : Reference) : r.toJson.normal = r.toJson := by
  have hkind : r.kind.toJson.normal = r.kind.toJson := rfl
  have hpath : Json.normalItems (r.path.map Json.str) = r.path.map Json.str := by
    rw [Json.normalItems_eq_map, List.map_map]
    rfl
  unfold toJson
  split <;> simp [Json.normal, Json.normalFields, hkind, hpath]

/-- References survive being written and read. -/
theorem faithful : Faithful toJson decode :=
  .of_normal (fun x => x) decode_toJson normal_toJson fun _ _ => beq_iff_eq

end Reference

/-! ## Entries and resources -/

namespace Entry

/-- The entry with its content in normal form. -/
def normal (e : Entry) : Entry := ⟨e.reference, e.content.normal⟩

/-- Two entries are the same exactly if they have one normal form. -/
theorem same_iff_normal (a b : Entry) : a.same b = true ↔ a.normal = b.normal := by
  rw [same_iff, Json.same_iff, normal, normal, Entry.mk.injEq]

/-- An entry is read back, a content that is left out as none. -/
theorem decode_toJson (e : Entry) : decode e.toJson = .ok e := by
  have href : Reference.decode e.reference.toJson = .ok e.reference := Reference.decode_toJson _
  simp [decode, toJson, fields, Decoder.record, Decoder.readFields, Decoder.need, href]

/-- The text of an entry in normal form is the normal form of its text. -/
theorem normal_toJson (e : Entry) : e.toJson.normal = e.normal.toJson := by
  simp [toJson, normal, Json.normal, Json.normalFields, Reference.normal_toJson]

/-- Entries survive being written and read. -/
theorem faithful : Faithful toJson decode :=
  .of_normal normal decode_toJson normal_toJson same_iff_normal

end Entry

namespace Resource

mutual

/-- The resource with every content of it in normal form. -/
def normal : Resource → Resource
  | node r c cs => node r c.normal (normalAll cs)

/-- The resources with every content of them in normal form. -/
def normalAll : List Resource → List Resource
  | [] => []
  | r :: rest => normal r :: normalAll rest

end

mutual

/-- Two resources are the same exactly if they have one normal form, at every depth. -/
theorem same_iff_normal (a b : Resource) : a.same b = true ↔ a.normal = b.normal := by
  cases a with
  | node r c cs =>
    cases b with
    | node s d ds => simp [same, normal, Json.same_iff, sameAll_iff_normalAll cs ds, and_assoc]

/-- Two lists of resources are the same, place by place, exactly if they have one normal form. -/
theorem sameAll_iff_normalAll (as bs : List Resource) : sameAll as bs = true ↔ normalAll as = normalAll bs := by
  cases as with
  | nil => cases bs <;> simp [sameAll, normalAll]
  | cons a as =>
    cases bs with
    | nil => simp [sameAll, normalAll]
    | cons b bs => simp [sameAll, normalAll, same_iff_normal a b, sameAll_iff_normalAll as bs]

end

/-- Normalizing neither adds nor drops a child, so that children are left out in the same cases. -/
theorem isEmpty_normalAll (cs : List Resource) : (normalAll cs).isEmpty = cs.isEmpty := by
  cases cs <;> rfl

mutual

/-- The text of a resource in normal form is the normal form of its text. -/
theorem normal_toJson (r : Resource) : r.toJson.normal = r.normal.toJson := by
  cases r with
  | node r c cs =>
    have hcs : Json.normalItems (toJsonAll cs) = toJsonAll (normalAll cs) := normalItems_toJsonAll cs
    rw [normal, toJson, toJson, isEmpty_normalAll]
    split <;> simp [Json.normal, Json.normalFields, Reference.normal_toJson, hcs]

/-- So are the texts of its children. -/
theorem normalItems_toJsonAll (rs : List Resource) : Json.normalItems (toJsonAll rs) = toJsonAll (normalAll rs) := by
  cases rs with
  | nil => rfl
  | cons r rs => simp [toJsonAll, normalAll, Json.normalItems, normal_toJson r, normalItems_toJsonAll rs]

end

mutual

/-- A resource is read back by a decoder for any depth above that of its JSON value. -/
theorem decodeWithin_toJson (r : Resource) (depth : Nat) (h : r.toJson.depth < depth) :
    decodeWithin depth r.toJson = .ok r := by
  cases r with
  | node r c cs =>
    cases depth with
    | zero => omega
    | succ depth =>
      have href : Reference.decode r.toJson = .ok r := Reference.decode_toJson r
      cases cs with
      | nil => simp [decodeWithin, toJson, fields, Decoder.record, Decoder.readFields, Decoder.need, href]
      | cons x cs =>
        have hdepth : Json.depthItems (toJsonAll (x :: cs)) < depth := by
          simp only [toJson, List.isEmpty_cons, Bool.false_eq_true, if_false, List.cons_append, Json.depth, Json.depthFields] at h
          omega
        have hcs : Decoder.list (decodeWithin depth) (.arr (toJsonAll (x :: cs))) = .ok (x :: cs) :=
          items_toJsonAll (x :: cs) depth hdepth
        simp [decodeWithin, toJson, fields, Decoder.record, Decoder.readFields, Decoder.need, href, hcs]

/-- Children are read back if the reader goes deep enough for the deepest of them. -/
theorem items_toJsonAll (rs : List Resource) (depth : Nat) (h : Json.depthItems (toJsonAll rs) < depth) :
    Decoder.items (decodeWithin depth) (toJsonAll rs) = .ok rs := by
  cases rs with
  | nil => rfl
  | cons r rs =>
    simp only [toJsonAll, Json.depthItems] at h
    have hr : decodeWithin depth r.toJson = .ok r := decodeWithin_toJson r depth (by omega)
    have hrs : Decoder.items (decodeWithin depth) (toJsonAll rs) = .ok rs := items_toJsonAll rs depth (by omega)
    simp only [toJsonAll, Decoder.items, hr, hrs]
    rfl

end

/-- A resource of any depth is read back. -/
theorem decode_toJson (r : Resource) : decode r.toJson = .ok r :=
  decodeWithin_toJson r _ (Nat.lt_succ_self _)

/-- Resources survive being written and read. -/
theorem faithful : Faithful toJson decode :=
  .of_normal normal decode_toJson normal_toJson same_iff_normal

/-- Children are written each on its own. -/
theorem toJsonAll_eq_map (rs : List Resource) : toJsonAll rs = rs.map toJson := by
  induction rs with
  | nil => rfl
  | cons r rs ih => simp [toJsonAll, ih]

end Resource

/-! ## Graphs and change sets -/

namespace Graph

/-- The graph with every content in it in normal form. -/
def normal (g : Graph) : Graph := ⟨Resource.normalAll g.roots⟩

/-- Two graphs are the same exactly if they have one normal form. -/
theorem same_iff_normal (a b : Graph) : a.same b = true ↔ a.normal = b.normal := by
  rw [same, Resource.sameAll_iff_normalAll, normal, normal, Graph.mk.injEq]

/-- A graph is read back. -/
theorem decode_toJson (g : Graph) : decode g.toJson = .ok g := by
  have hroots : Decoder.list Resource.decode (.arr (Resource.toJsonAll g.roots)) = .ok g.roots := by
    rw [Resource.toJsonAll_eq_map]
    exact Decoder.list_map Resource.toJson Resource.decode_toJson g.roots
  simp [decode, toJson, fields, Decoder.record, Decoder.readFields, hroots]

/-- The text of a graph in normal form is the normal form of its text. -/
theorem normal_toJson (g : Graph) : g.toJson.normal = g.normal.toJson := by
  simp [toJson, normal, Json.normal, Json.normalFields, Resource.normalItems_toJsonAll]

/-- Graphs survive being written and read. -/
theorem faithful : Faithful toJson decode :=
  .of_normal normal decode_toJson normal_toJson same_iff_normal

end Graph

namespace ResourceChanges

/-- The changes with the content of every entry to add in normal form. -/
def normal (c : ResourceChanges) : ResourceChanges := ⟨c.toAdd.map Entry.normal, c.toRemove⟩

/-- Two change sets are the same exactly if they have one normal form. -/
theorem beq_iff_normal (a b : ResourceChanges) : (a == b) = true ↔ normal a = normal b := by
  have hadd (as bs : List Entry) : (as == bs) = true ↔ as.map Entry.normal = bs.map Entry.normal := by
    induction as generalizing bs with
    | nil => cases bs <;> simp
    | cons a as ih =>
      cases bs with
      | nil => simp
      | cons b bs =>
        have hab : (a == b) = true ↔ a.normal = b.normal := Entry.same_iff_normal a b
        simp [hab, ih]
  have hboth : (a == b) = (a.toAdd == b.toAdd && a.toRemove == b.toRemove) := rfl
  rw [hboth, Bool.and_eq_true, hadd, beq_iff_eq, normal, normal, ChangeSet.mk.injEq]

/-- A change set is read back, lists that are left out as empty ones. -/
theorem decode_toJson (c : ResourceChanges) : decode (toJson c) = .ok c := by
  have hadd : Decoder.list Entry.decode (.arr (c.toAdd.map Entry.toJson)) = .ok c.toAdd :=
    Decoder.list_map Entry.toJson Entry.decode_toJson _
  have hremove : Decoder.list Reference.decode (.arr (c.toRemove.map Reference.toJson)) = .ok c.toRemove :=
    Decoder.list_map Reference.toJson Reference.decode_toJson _
  simp [decode, toJson, ChangeSet.decode, ChangeSet.toJson, ChangeSet.fields, Decoder.record, Decoder.readFields, Decoder.need,
    hadd, hremove]

/-- The text of a change set in normal form is the normal form of its text. -/
theorem normal_toJson (c : ResourceChanges) : (toJson c).normal = toJson (normal c) := by
  have hadd : Json.normalItems (c.toAdd.map Entry.toJson) = (c.toAdd.map Entry.normal).map Entry.toJson := by
    rw [Json.normalItems_eq_map, List.map_map, List.map_map]
    exact List.map_congr_left fun e _ => Entry.normal_toJson e
  have hremove : Json.normalItems (c.toRemove.map Reference.toJson) = c.toRemove.map Reference.toJson := by
    rw [Json.normalItems_eq_map, List.map_map]
    exact List.map_congr_left fun r _ => Reference.normal_toJson r
  simp [toJson, normal, ChangeSet.toJson, Json.normal, Json.normalFields, hadd, hremove]

/-- Change sets survive being written and read. -/
theorem faithful : Faithful toJson decode :=
  .of_normal normal decode_toJson normal_toJson beq_iff_normal

end ResourceChanges

/-! ## Failures -/

namespace Failure

/-- A failure is read back, the step it was attributed to being optional. -/
theorem decode_toJson (f : Failure) : decode f.toJson = .ok f := by
  obtain ⟨severity, step, message⟩ := f
  have hseverity : Severity.decode (.str severity.name) = .ok severity := Severity.decode_name severity
  have hmessage : Decoder.string (.str message) = .ok message := rfl
  cases step with
  | none => simp [decode, toJson, fields, Decoder.record, Decoder.readFields, Decoder.need, hseverity, hmessage]
  | some s =>
    have hstep : Decoder.optional Decoder.string (.str s) = .ok (some s) := rfl
    simp [decode, toJson, fields, Decoder.record, Decoder.readFields, Decoder.need, hseverity, hmessage, hstep]

/-- There are no numbers in a failure. -/
theorem normal_toJson (f : Failure) : f.toJson.normal = f.toJson := by
  obtain ⟨severity, step, message⟩ := f
  cases step <;> rfl

/-- Failures survive being written and read. -/
theorem faithful : Faithful toJson decode :=
  .of_normal (fun x => x) decode_toJson normal_toJson fun _ _ => beq_iff_eq

end Failure

/-- References, resources of any depth and shape, entries, graphs, changes and failures are read back from their JSON values as
they were, so that distinct ones are written as distinct JSON values. -/
theorem encodings_faithful :
    Faithful Reference.toJson Reference.decode ∧ Faithful Resource.toJson Resource.decode ∧
      Faithful Entry.toJson Entry.decode ∧ Faithful Graph.toJson Graph.decode ∧
      Faithful ResourceChanges.toJson ResourceChanges.decode ∧ Faithful Failure.toJson Failure.decode :=
  ⟨Reference.faithful, Resource.faithful, Entry.faithful, Graph.faithful, ResourceChanges.faithful, Failure.faithful⟩

end CatalogSync
