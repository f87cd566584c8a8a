import CatalogSync.Text.CharTable

/-!
# Maps of characters given by rows

A map of characters to texts is written as a text of rows: `41-5a>61` takes a run of characters to a run, `100:12e>101` every
second one of a run, `249=24b>20` all of a run to the same, and `df>73,73` one character to two.
-/

namespace CatalogSync.Text

/-- One row of a map: the characters from `first` to `last`, every one or every second one of them, go to `target`. Where `moving`
holds the target of a later character lies as much later. -/
structure CharMap.Row where
  first : Nat
  last : Nat
  stride : Nat
  moving : Bool
  target : List Nat

/-- A map of some characters to texts. -/
structure CharMap where
  rows : Array CharMap.Row

namespace CharMap

/-- Reads a row. -/
def Row.ofText (s : String) : Option Row :=
  match s.splitOn ">" with
  | [source, target] =>
    let target := (target.splitOn ",").map hexText
    match source.splitOn "-", source.splitOn ":", source.splitOn "=" with
    | [a, b], _, _ => some ⟨hexText a, hexText b, 1, true, target⟩
    | _, [a, b], _ => some ⟨hexText a, hexText b, 2, true, target⟩
    | _, _, [a, b] => some ⟨hexText a, hexText b, 1, false, target⟩
    | _, _, _ => some ⟨hexText source, hexText source, 1, false, target⟩
  | _ => none

/-- What a row takes a character to, if it is one of the row's. -/
def Row.image? (r : Row) (n : Nat) : Option (List Char) :=
  if r.first ≤ n ∧ n ≤ r.last ∧ (n - r.first) % r.stride = 0 then
    some (r.target.map fun t => Char.ofNat (if r.moving then t + (n - r.first) else t))
  else none

/-- Reads the rows of a map. -/
def ofText (s : String) : CharMap := ⟨(words s).toArray.filterMap Row.ofText⟩

/-- What a map takes a character to, if it is one of the map's. -/
def image? (m : CharMap) (c : Char) : Option (List Char) := m.rows.findSome? (·.image? c.toNat)

end CharMap

end CatalogSync.Text
