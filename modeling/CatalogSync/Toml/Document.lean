import CatalogSync.Toml.Datetime
import CatalogSync.Toml.Line

/-!
# TOML documents

The lines of a text are gathered into sections: what stands before the first header, and what stands below each header. Sections
are then put together to one table. Each table has one section of its own at most, each element of an array of tables begins with
its header, and no key is given twice.
-/

namespace CatalogSync.Toml

/-- A header with the pairs below it. -/
structure Section where
  place : List Char
  path : List String
  isArray : Bool
  pairs : List (String × Written)

namespace Section

/-- The part of a section's path below a depth. -/
def key? (s : Section) (depth : Nat) : Option String := s.path[depth]?

/-- Whether a section is an element of the array of tables at the given depth. -/
def isElement (s : Section) (depth : Nat) : Bool := s.isArray && s.path.length == depth

end Section

/-- Adds a line to sections, of which the last is open. -/
def addLine (sections : List Section) : Line → Reading (List Section)
  | .header place path isArray => .ok (sections ++ [⟨place, path, isArray, []⟩])
  | .pair key place value =>
    match sections.getLast? with
    | none => .ok sections
    | some last => do
      return sections.dropLast ++ [{ last with pairs := ← addDotted place value key last.pairs }]

/-- Gathers the lines of a text into sections. -/
def gather : Nat → List Section → List Char → Reading (List Section)
  | 0, sections, _ => .ok sections
  | fuel + 1, sections, cs => do
    match ← line? cs with
    | none => return sections
    | some (l, rest) => gather fuel (← addLine sections l) rest

/-- A fault found below a key. -/
def below {α : Type} (key : String) (r : Reading α) : Reading α := r.mapError fun e => { e with keys := key :: e.keys }

/-- Adds a field whose key must be new. The fault of a key given twice is seen at the given place. -/
def addField (place : List Char) (fields : List (String × Value)) (key : String) (v : Value) : Reading (List (String × Value)) :=
  if fields.any (·.1 == key) then faultAt (.duplicateKey key) place else .ok (fields ++ [(key, v)])

mutual

/-- The value that is written. -/
def Written.toValue : Written → Reading Value
  | .leaf _ v => .ok v
  | .datetime place text =>
    match Datetime.normalize? text with
    | some s => .ok (.datetime (String.ofList s))
    | none => faultAt .unreadableDate place
  | .array _ items => (Written.toValues items).map .array
  | .inline place fields => (Written.toFields place [] fields).map .table
  | .dotted place fields => (Written.toFields place [] fields).map .table

/-- The values that are written. -/
def Written.toValues : List Written → Reading (List Value)
  | [] => .ok []
  | w :: rest => do
    let v ← Written.toValue w
    return v :: (← Written.toValues rest)

/-- The fields that are written, after given ones. -/
def Written.toFields (place : List Char) (fields : List (String × Value)) : List (String × Written) → Reading (List (String × Value))
  | [] => .ok fields
  | (key, w) :: rest => do
    let v ← below key (Written.toValue w)
    Written.toFields place (← addField place fields key v) rest

end

/-- The different keys of sections at a depth, in order of their first occurrence. -/
def keysAt (depth : Nat) (sections : List Section) : List String := (sections.filterMap (·.key? depth)).eraseDups

/-- Splits sections into groups, each of which begins with an element at the given depth. -/
def elementGroups (depth : Nat) : List Section → List (List Section)
  | [] => []
  | s :: rest =>
    match elementGroups depth rest with
    | [] => [[s]]
    | group :: groups =>
      if (group.head?.map (·.isElement depth)).getD false then [s] :: group :: groups else (s :: group) :: groups

mutual

/-- The table of the sections at or below a path of the given depth. Keys given twice are seen at the last header of the text. -/
def tableOf (last : List Char) : Nat → Nat → Bool → List Section → Reading (List (String × Value))
  | 0, _, _, _ => .ok []
  | fuel + 1, depth, isElement, sections => do
    let own := sections.filter fun s => s.path.length = depth
    let fields ←
      match own with
      | [] => pure []
      | [s] =>
        if s.isArray && !isElement then faultAt .redefinedAsArray s.place
        Written.toFields last [] s.pairs
      | s :: t :: _ =>
        if s.isArray && !isElement then faultAt .redefinedAsArray s.place
        faultAt (.duplicateTable (".".intercalate t.path)) t.place
    subtables last fuel depth (sections.filter fun s => s.path.length ≠ depth) fields (keysAt depth sections)

/-- Adds the tables and arrays of tables below the given keys to fields. -/
def subtables (last : List Char) : Nat → Nat → List Section → List (String × Value) → List String →
    Reading (List (String × Value))
  | 0, _, _, fields, _ => .ok fields
  | _, _, _, fields, [] => .ok fields
  | fuel + 1, depth, sections, fields, key :: keys => do
    let group := sections.filter fun s => s.key? depth = some key
    let v ← below key <|
      if (group.head?.map (·.isElement (depth + 1))).getD false then
        (elements last fuel (depth + 1) (elementGroups (depth + 1) group)).map Value.array
      else (tableOf last fuel (depth + 1) false group).map Value.table
    subtables last fuel depth sections (← addField last fields key v) keys

/-- The elements of an array of tables, one for each group of sections. -/
def elements (last : List Char) : Nat → Nat → List (List Section) → Reading (List Value)
  | 0, _, _ => .ok []
  | _, _, [] => .ok []
  | fuel + 1, depth, group :: groups => do
    let fields ← tableOf last fuel depth true group
    return .table fields :: (← elements last fuel depth groups)

end

/-- The table that a text writes. -/
def document (cs : List Char) : Reading Value := do
  let sections ← gather (cs.length + 1) [⟨cs, [], false, []⟩] cs
  let last := (sections.getLast?.map Section.place).getD cs
  let size := sections.foldl (fun n s => n + s.path.length + 1) 1
  return .table (← tableOf last (2 * size) 0 false sections)

/-- The number of bytes that characters take. -/
def byteCount (cs : List Char) : Nat := cs.foldl (fun n c => n + c.utf8Size) 0

/-- The text of a fault: what is wrong, below which keys, and in which line and column of the text it shows. -/
def FaultAt.message (e : FaultAt) (text : List Char) : String :=
  let before := text.take (text.length - e.place.length)
  let line := before.count '\n' + 1
  let column := byteCount (before.reverse.takeWhile (· ≠ '\n')) + 1
  e.fault.message ++ (if e.keys.isEmpty then "" else " for key `" ++ ".".intercalate e.keys ++ "`") ++
    " at line " ++ toString line ++ " column " ++ toString column

/-- Reads a TOML text: its table, or the text of what is wrong with it. -/
def parse (s : String) : Except String Value :=
  let cs := match s.toList with
    | '\ufeff' :: rest => rest
    | cs => cs
  (document cs).mapError fun e => e.message cs

end CatalogSync.Toml
