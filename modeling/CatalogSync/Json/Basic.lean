import CatalogSync.Number.Binary64

/-!
# JSON values

The contents of resources are opaque JSON values. Whole numbers and binary64 numbers are kept apart and are never equal to one
another; the two zeros of binary64 are equal. The fields of an object are kept in increasing order of their names, each name
once, so that two objects with the same fields are written alike.
-/

namespace CatalogSync

/-- A JSON number: a whole number of 64 bits, or a binary64 number. -/
inductive Json.Number where
  | int (value : Int)
  | float (value : Binary64)
  deriving DecidableEq, Repr

/-- Numeric equality within each kind of number. -/
def Json.Number.same : Json.Number → Json.Number → Bool
  | .int a, .int b => a == b
  | .float a, .float b => a.same b
  | _, _ => false

/-- A JSON value. -/
inductive Json where
  | null
  | bool (value : Bool)
  | num (value : Json.Number)
  | str (value : String)
  | arr (items : List Json)
  | obj (fields : List (String × Json))
  deriving Repr, Inhabited

namespace Json

mutual

/-- Whether two values are equal: numbers numerically, arrays and objects part by part. -/
def same : Json → Json → Bool
  | .null, .null => true
  | .bool a, .bool b => a == b
  | .num a, .num b => a.same b
  | .str a, .str b => a == b
  | .arr a, .arr b => sameItems a b
  | .obj a, .obj b => sameFields a b
  | _, _ => false

/-- Whether two lists of values are equal item by item. -/
def sameItems : List Json → List Json → Bool
  | [], [] => true
  | a :: as, b :: bs => same a b && sameItems as bs
  | _, _ => false

/-- Whether two lists of fields are equal field by field. -/
def sameFields : List (String × Json) → List (String × Json) → Bool
  | [], [] => true
  | (k, a) :: as, (l, b) :: bs => k == l && same a b && sameFields as bs
  | _, _ => false

end

instance : BEq Json := ⟨same⟩

/-- A whole number. -/
def ofInt (n : Int) : Json := .num (.int n)

/-- A natural number. -/
def ofNat (n : Nat) : Json := .num (.int n)

instance : Coe String Json := ⟨.str⟩

instance : Coe Bool Json := ⟨.bool⟩

/-- Adds a field to fields in increasing order of name, in place of an earlier one of the name. -/
def insertField (name : String) (value : Json) : List (String × Json) → List (String × Json)
  | [] => [(name, value)]
  | (k, v) :: rest =>
    if name < k then (name, value) :: (k, v) :: rest
    else if name = k then (name, value) :: rest
    else (k, v) :: insertField name value rest

/-- Fields in increasing order of name; the last of one name counts. -/
def sortFields (fields : List (String × Json)) : List (String × Json) :=
  fields.foldl (fun acc (k, v) => insertField k v acc) []

/-- The object with the given fields. -/
def ofFields (fields : List (String × Json)) : Json := .obj (sortFields fields)

/-- The field of the given name, if the value is an object that has it. -/
def field? : Json → String → Option Json
  | .obj fields, name => fields.lookup name
  | _, _ => none

/-- The string a value is, if it is one. -/
def str? : Json → Option String
  | .str s => some s
  | _ => none

/-- The whole number a value is, if it is one. -/
def int? : Json → Option Int
  | .num (.int n) => some n
  | _ => none

end Json

end CatalogSync
