/-!
# Whole numbers of sixty-four bits

The bounds that counts, periods and the whole numbers of data files keep to.
-/

namespace CatalogSync.Word

/-- How many different words there are. -/
def count : Nat := 0x10000000000000000

/-- The greatest word. -/
def greatest : Nat := count - 1

/-- Whether a whole number fits a word that keeps a sign. -/
def isSigned (n : Int) : Bool := -0x8000000000000000 ≤ n && n < 0x8000000000000000

end CatalogSync.Word
