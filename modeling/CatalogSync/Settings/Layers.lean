import CatalogSync.Settings.Value
import CatalogSync.Number.Word

/-!
# Layers of settings

Settings are layered: each source sets values at keys, and later sources win. A key is a path such as `a.b` or `a[0].b` into the
tables and arrays set so far; what stands in the way of a path is replaced. Tables are merged field by field. An index may count from the
end of an array, but whoever counts back past its start crashes.
-/

namespace CatalogSync

/-- One step into a setting. -/
inductive PathStep where
  | field (name : String)
  | index (i : Int)
  deriving DecidableEq, Repr

namespace PathStep

/-- Whether a character may stand in a name of a path. -/
def isNameChar (c : Char) : Bool := c.isAlphanum || c == ' ' || c == '_' || c == '-'

/-- Whether a character may stand around an index. -/
def isBlankChar (c : Char) : Bool := c == ' ' || c == '\t'

/-- Takes an index between brackets, after the first of them. -/
def takeIndex (cs : List Char) : Option (Int × List Char) :=
  let cs := cs.dropWhile isBlankChar
  let (negative, cs) := match cs with
    | '-' :: rest => (true, rest)
    | '+' :: rest => (false, rest)
    | cs => (false, cs)
  let digits := cs.takeWhile Char.isDigit
  let n : Int := digits.foldl (fun n c => 10 * n + (c.toNat - '0'.toNat)) 0
  let n := if negative then -n else n
  match (cs.dropWhile Char.isDigit).dropWhile isBlankChar with
  | ']' :: rest => if digits.isEmpty || !Word.isSigned n then none else some (n, rest)
  | _ => none

/-- Reads the steps after the first name of a path. -/
def readSteps : Nat → List Char → Option (List PathStep)
  | _, [] => some []
  | 0, _ => none
  | fuel + 1, '.' :: cs =>
    match cs.takeWhile isNameChar with
    | [] => none
    | name => (readSteps fuel (cs.dropWhile isNameChar)).map (.field (String.ofList name) :: ·)
  | fuel + 1, '[' :: cs =>
    match takeIndex cs with
    | none => none
    | some (i, rest) => (readSteps fuel rest).map (.index i :: ·)
  | _, _ => none

/-- The path that a key is. A key that is no path stands for the field of its name. -/
def pathOf (key : String) : List PathStep :=
  let cs := key.toList
  match cs.takeWhile isNameChar with
  | [] => [.field key]
  | name =>
    match readSteps cs.length (cs.dropWhile isNameChar) with
    | some steps => .field (String.ofList name) :: steps
    | none => [.field key]

end PathStep

namespace Setting

/-- The table that a setting is; another setting gives way to an empty one. -/
def asTable : Setting → Option String × List (String × Setting)
  | table o fields => (o, fields)
  | _ => (none, [])

/-- The array that a setting is; another setting gives way to an empty one. -/
def asArray : Setting → Option String × List Setting
  | array o items => (o, items)
  | _ => (none, [])

/-- The place of an index, which counts from the end if it is negative. There is none before the start. -/
def placeOf (i : Int) (length : Nat) : Option Nat :=
  if 0 ≤ i then some i.toNat else if i.natAbs ≤ length then some (length - i.natAbs) else none

/-- Puts a value into the field of a name, in place of an earlier one. -/
def putField (name : String) (v : Setting) : List (String × Setting) → List (String × Setting)
  | [] => [(name, v)]
  | (k, x) :: rest => if k = name then (k, v) :: rest else (k, x) :: putField name v rest

/-- Puts a value at a place of a list, which is made long enough. -/
def putItem (place : Nat) (v : Setting) (items : List Setting) : List Setting :=
  (items ++ List.replicate (place + 1 - items.length) nothing).set place v

mutual

/-- Sets a field of a setting, which becomes a table. A table is merged into the table that is there. -/
def setField (name : String) (v target : Setting) : Setting :=
  let (o, fields) := target.asTable
  match v with
  | table _ incoming => table o (putField name (setFields incoming ((fields.lookup name).getD empty)) fields)
  | v => table o (putField name v fields)

/-- Sets fields of a setting one after the other. -/
def setFields : List (String × Setting) → Setting → Setting
  | [], target => target
  | (k, v) :: rest, target => setFields rest (setField k v target)

end

/-- Sets the value at a path into a setting, unless the path leads before the start of an array. -/
def setPath (v : Setting) : List PathStep → Setting → Option Setting
  | [], _ => some v
  | [.field name], target => some (setField name v target)
  | [.index i], target => do
    let (o, items) := target.asArray
    return array o (putItem (← placeOf i items.length) v items)
  | .field name :: rest, target => do
    let (o, fields) := target.asTable
    return table o (putField name (← setPath v rest ((fields.lookup name).getD nothing)) fields)
  | .index i :: rest, target => do
    let (o, items) := target.asArray
    let place ← placeOf i items.length
    return array o (putItem place (← setPath v rest ((items[place]?).getD nothing)) items)

/-- A setting with the values of one more source at their keys. There is none if one of the keys leads before the start of an array. -/
def layer (target : Setting) (source : List (String × Setting)) : Option Setting :=
  source.foldlM (fun t (key, v) => setPath v (PathStep.pathOf key) t) target

/-- The settings of several sources, later ones winning. -/
def layered (sources : List (List (String × Setting))) : Option Setting := sources.foldlM layer empty

end Setting

end CatalogSync
