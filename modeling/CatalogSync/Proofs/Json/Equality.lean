import CatalogSync.Json.Basic

/-!
# Equality of JSON values

`Json.same` compares numbers by value, so the two zeros of binary64 are one number. It is equality of normal forms, in which
only the positive zero occurs (`Json.same_iff`), hence an equivalence.
-/

namespace CatalogSync

namespace Binary64

/-- The number itself, or the positive zero in place of either zero. -/
def normal (x : Binary64) : Binary64 := if x.isZero then zero false else x

/-- The normal form of a zero is a zero, and of no other number. -/
theorem isZero_normal (x : Binary64) : x.normal.isZero = x.isZero := by
  unfold normal
  split
  · rename_i h
    rw [h]
    rfl
  · rfl

/-- Two floats are the same exactly if they have one normal form, which takes zeros together. -/
theorem same_iff (x y : Binary64) : x.same y = true ↔ x.normal = y.normal := by
  constructor
  · intro h
    simp only [same, Bool.or_eq_true, Bool.and_eq_true, beq_iff_eq] at h
    rcases h with ⟨hx, hy⟩ | h
    · simp [normal, hx, hy]
    · rw [h]
  · intro h
    have hz : x.isZero = y.isZero := by rw [← isZero_normal x, h, isZero_normal y]
    cases hx : x.isZero with
    | true => simp [same, ← hz, hx]
    | false =>
      have hxy : x = y := by simpa [normal, ← hz, hx] using h
      simp [same, hxy]

end Binary64

namespace Json

/-- The number with its normal form in place of a binary64 number. -/
def Number.normal : Number → Number
  | .int n => .int n
  | .float x => .float x.normal

/-- Two numbers are the same exactly if they have one normal form. -/
theorem Number.same_iff (a b : Number) : a.same b = true ↔ a.normal = b.normal := by
  cases a <;> cases b <;> simp [Number.same, Number.normal, Binary64.same_iff]

mutual

/-- The value with every number in normal form. -/
def normal : Json → Json
  | .null => .null
  | .bool b => .bool b
  | .num n => .num n.normal
  | .str s => .str s
  | .arr items => .arr (normalItems items)
  | .obj fields => .obj (normalFields fields)

/-- The values, each in normal form. -/
def normalItems : List Json → List Json
  | [] => []
  | v :: rest => normal v :: normalItems rest

/-- The fields, each value in normal form. -/
def normalFields : List (String × Json) → List (String × Json)
  | [] => []
  | (k, v) :: rest => (k, normal v) :: normalFields rest

end

mutual

/-- Two values are equal exactly if their normal forms are. -/
theorem same_iff (a b : Json) : a.same b = true ↔ a.normal = b.normal := by
  cases a <;> cases b <;>
    simp [same, normal, Number.same_iff, sameItems_iff, sameFields_iff]

/-- So are the items of two arrays. -/
theorem sameItems_iff (as bs : List Json) : sameItems as bs = true ↔ normalItems as = normalItems bs := by
  cases as <;> cases bs <;> simp [sameItems, normalItems, same_iff, sameItems_iff]

/-- So are the fields of two objects. -/
theorem sameFields_iff (as bs : List (String × Json)) :
    sameFields as bs = true ↔ normalFields as = normalFields bs := by
  cases as <;> cases bs <;> simp [sameFields, normalFields, same_iff, sameFields_iff, and_assoc]

end

theorem same_refl (a : Json) : a.same a = true := (same_iff a a).2 rfl

theorem same_symm {a b : Json} (h : a.same b = true) : b.same a = true := (same_iff b a).2 ((same_iff a b).1 h).symm

theorem same_trans {a b c : Json} (h : a.same b = true) (h' : b.same c = true) : a.same c = true :=
  (same_iff a c).2 (((same_iff a b).1 h).trans ((same_iff b c).1 h'))

end Json

end CatalogSync
