/-!
# Tables of characters given by ranges

A property of characters is written as a text of hexadecimal ranges in increasing order, such as `41-5a 5f 61-7a`, each with a
value after a colon where the property has values, and looked up by halving.
-/

namespace CatalogSync.Text

/-- The value of a hexadecimal digit. -/
def hexDigit? (c : Char) : Option Nat :=
  if '0' ≤ c && c ≤ '9' then some (c.toNat - '0'.toNat)
  else if 'a' ≤ c && c ≤ 'f' then some (c.toNat - 'a'.toNat + 10)
  else if 'A' ≤ c && c ≤ 'F' then some (c.toNat - 'A'.toNat + 10)
  else none

/-- The value of a run of hexadecimal digits; other characters are skipped. -/
def hexValue (cs : List Char) : Nat := (cs.filterMap hexDigit?).foldl (fun n d => 16 * n + d) 0

/-- The value of a text of hexadecimal digits. -/
def hexText (s : String) : Nat := hexValue s.toList

/-- The parts of a text that stand between blanks and line ends. -/
def words (s : String) : List String :=
  ((s.map fun c => if c = '\n' then ' ' else c).splitOn " ").filter (· ≠ "")

/-- Disjoint ranges of code points in increasing order, each with a value. -/
structure CharTable (α : Type) where
  rows : Array (Nat × Nat × α)

namespace CharTable

/-- The first and the last code point of a written range. -/
def range (s : String) : Nat × Nat :=
  match s.splitOn "-" with
  | [a, b] => (hexText a, hexText b)
  | _ => (hexText s, hexText s)

/-- Reads a text of ranges with values. -/
def ofText {α : Type} (value : String → α) (s : String) : CharTable α where
  rows := (words s).toArray.map fun part =>
    match part.splitOn ":" with
    | [r, v] => ((range r).1, (range r).2, value v)
    | _ => ((range part).1, (range part).2, value "")

/-- Halves the rows from `lo` to `hi` until at most one is left to compare with. -/
def search {α : Type} (t : CharTable α) (n : Nat) : Nat → Nat → Nat → Option α
  | 0, _, _ => none
  | fuel + 1, lo, hi =>
    if hi ≤ lo then none
    else
      let mid := (lo + hi) / 2
      match t.rows[mid]? with
      | none => none
      | some (a, b, v) => if n < a then search t n fuel lo mid else if b < n then search t n fuel (mid + 1) hi else some v

/-- The value of a character, if it lies in one of the ranges. -/
def find? {α : Type} (t : CharTable α) (c : Char) : Option α := t.search c.toNat (t.rows.size + 1) 0 t.rows.size

end CharTable

/-- A set of characters. -/
abbrev CharSet := CharTable Unit

namespace CharSet

/-- Reads a text of ranges without values. -/
def ofText (s : String) : CharSet := CharTable.ofText (fun _ => ()) s

/-- Whether a character lies in the set. -/
def contains (t : CharSet) (c : Char) : Bool := (CharTable.find? t c).isSome

end CharSet

end CatalogSync.Text
