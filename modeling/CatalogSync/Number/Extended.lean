import CatalogSync.Number.Shortest

/-!
# Binary64 numbers with infinities

A number that may also be infinite or no number at all, as some settings files can write it.
-/

namespace CatalogSync

/-- A binary64 number, an infinity, or not a number. -/
inductive Extended where
  | finite (value : Binary64)
  | infinite (negative : Bool)
  | nan
  deriving DecidableEq, Repr

namespace Extended

/-- Whether a number is one of the two zeros. -/
def isZero : Extended → Bool
  | finite x => x.isZero
  | _ => false

/-- The nearest whole number from zero to the given greatest one, a half going away from zero; nothing is nearest to zero. -/
def toNat (greatest : Nat) : Extended → Nat
  | finite x => if x.negative then 0 else min greatest x.roundMagnitude
  | infinite negative => if negative then 0 else greatest
  | nan => 0

/-- The text of a number, finite ones in the given layout. -/
def render (layout : DecimalLayout) : Extended → String
  | finite x => layout.render x
  | infinite false => "inf"
  | infinite true => "-inf"
  | nan => "NaN"

end Extended

end CatalogSync
