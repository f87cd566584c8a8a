import CatalogSync.Json.Basic
import CatalogSync.Number.Shortest
import CatalogSync.Text.Quoted

/-!
# Reading typed values from JSON

A decoder takes a JSON value to a value of a type or says how the two do not fit, as a `Misfit`. Records may be written as
objects, whose fields are read in increasing order of name and may be more than the known ones, or as arrays of the known fields
in order. The wording of a misfit depends on where the JSON value came from only in how nothing and binary64 numbers are named.
-/

namespace CatalogSync

/-- How a JSON value does not fit a type. -/
inductive Misfit where
  /-- A field that must be there is not. -/
  | missingField (name : String)
  /-- A value of another kind. -/
  | wrongType (found : Json) (expected : String)
  /-- A value of the right kind, but out of bounds. -/
  | wrongValue (found : Json) (expected : String)
  /-- An array that is too short or too long. -/
  | wrongLength (length : Nat) (expected : String)
  /-- A name that is none of the known ones. -/
  | unknownVariant (name : String) (known : List String)
  /-- A string that breaks the rules of its type. -/
  | unfit (message : String)

/-- How messages name nothing and lay out binary64 numbers. -/
structure Wording where
  nothing : String
  number : DecimalLayout

/-- The wording for values of JSON texts. -/
def Wording.json : Wording := ⟨"null", .json⟩

/-- The wording for values of settings files. -/
def Wording.settings : Wording := ⟨"unit value", .message⟩

/-- What a message calls a value that was found. -/
def Wording.found (w : Wording) : Json → String
  | .null => w.nothing
  | .bool b => "boolean `" ++ toString b ++ "`"
  | .num (.int n) => "integer `" ++ toString n ++ "`"
  | .num (.float x) => "floating point `" ++ w.number.render x ++ "`"
  | .str s => "string " ++ Text.quoted s
  | .arr _ => "sequence"
  | .obj _ => "map"

namespace Misfit

/-- The names of the known variants, as a message lists them. -/
def oneOf (known : List String) : String :=
  let names := known.map fun name => "`" ++ name ++ "`"
  match names with
  | [] => "there are no variants"
  | [a] => "expected " ++ a
  | [a, b] => "expected " ++ a ++ " or " ++ b
  | _ => "expected one of " ++ ", ".intercalate names

/-- The text of a misfit. -/
def message (w : Wording) : Misfit → String
  | .missingField name => "missing field `" ++ name ++ "`"
  | .wrongType found expected => "invalid type: " ++ w.found found ++ ", expected " ++ expected
  | .wrongValue found expected => "invalid value: " ++ w.found found ++ ", expected " ++ expected
  | .wrongLength length expected => "invalid length " ++ toString length ++ ", expected " ++ expected
  | .unknownVariant name known => "unknown variant `" ++ name ++ "`, " ++ oneOf known
  | .unfit text => text

end Misfit

/-- Reads a value of a type from JSON. -/
abbrev Decoder (α : Type) := Json → Except Misfit α

namespace Decoder

/-- Any JSON value is taken as it is. -/
def json : Decoder Json := .ok

/-- A string. -/
def string : Decoder String
  | .str s => .ok s
  | v => .error (.wrongType v "a string")

/-- A boolean. -/
def bool : Decoder Bool
  | .bool b => .ok b
  | v => .error (.wrongType v "a boolean")

/-- A natural number below `count`, called `expected` in messages. -/
def word (count : Nat) (expected : String) : Decoder Nat
  | .num (.int n) => if 0 ≤ n ∧ n < count then .ok n.toNat else .error (.wrongValue (.num (.int n)) expected)
  | v => .error (.wrongType v expected)

/-- Nothing, or a value of the type. -/
def optional {α : Type} (d : Decoder α) : Decoder (Option α)
  | .null => .ok none
  | v => (d v).map some

/-- Reads each item; the first that does not fit counts. -/
def items {α : Type} (d : Decoder α) : List Json → Except Misfit (List α)
  | [] => .ok []
  | v :: rest => do return (← d v) :: (← items d rest)

/-- An array of values of the type. -/
def list {α : Type} (d : Decoder α) : Decoder (List α)
  | .arr vs => items d vs
  | v => .error (.wrongType v "a sequence")

/-- One of a few named values: its name, or an object with the name for its one field and nothing in it. -/
def variant {α : Type} (named : List (String × α)) : Decoder α
  | .str s => find s
  | .obj [(s, v)] => do
    let a ← find s
    match v with
    | .null => return a
    | v => throw (.wrongType v "unit")
  | .obj fields => .error (.wrongValue (.obj fields) "map with a single key")
  | v => .error (.wrongType v "string or map")
where
  /-- The value of a name. -/
  find (s : String) : Except Misfit α :=
    match named.lookup s with
    | some a => .ok a
    | none => .error (.unknownVariant s (named.map Prod.fst))

/-- A field of a record that is read into a state of fields seen so far. -/
structure Field (σ : Type) where
  /-- The name of the field. -/
  name : String
  /-- Whether an array of the fields may end before this one. -/
  mayBeAbsent : Bool
  /-- Reads the field's value into the state. -/
  read : Json → σ → Except Misfit σ

/-- `1 element`, `2 elements`, and so on. -/
def elements (n : Nat) : String := if n = 1 then "1 element" else toString n ++ " elements"

/-- Reads the fields of an object; unknown ones are passed over. -/
def readFields {σ : Type} (fields : List (Field σ)) (state : σ) : List (String × Json) → Except Misfit σ
  | [] => .ok state
  | (name, v) :: rest =>
    match fields.find? (·.name == name) with
    | none => readFields fields state rest
    | some field => do readFields fields (← field.read v state) rest

/-- Reads the fields in order from items: the state and the items left. `count` fields come before these. -/
def readItems {σ : Type} (expected : String) (count : Nat) (state : σ) :
    List (Field σ) → List Json → Except Misfit (σ × List Json)
  | [], vs => .ok (state, vs)
  | field :: rest, [] =>
    if field.mayBeAbsent then readItems expected (count + 1) state rest [] else .error (.wrongLength count expected)
  | field :: rest, v :: vs => do readItems expected (count + 1) (← field.read v state) rest vs

/-- A record of the given name, read as an object or as an array of its fields. -/
def record {σ : Type} (name : String) (fields : List (Field σ)) (start : σ) : Decoder σ
  | .obj vs => readFields fields start vs
  | .arr vs => do
    let (state, rest) ← readItems ("struct " ++ name ++ " with " ++ elements fields.length) 0 start fields vs
    if rest.isEmpty then return state else throw (.wrongLength vs.length "fewer elements in array")
  | v => .error (.wrongType v ("struct " ++ name))

/-- The value of a field that must be there. -/
def need {α : Type} (name : String) : Option α → Except Misfit α
  | some a => .ok a
  | none => .error (.missingField name)

end Decoder

end CatalogSync
