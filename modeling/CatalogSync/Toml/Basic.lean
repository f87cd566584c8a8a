import CatalogSync.Number.Extended

/-!
# TOML values

A TOML document is a table. Dates and times are kept as the text that writes them.
-/

namespace CatalogSync.Toml

/-- A TOML value. -/
inductive Value where
  | string (s : String)
  | integer (n : Int)
  | float (x : Extended)
  | boolean (b : Bool)
  | datetime (text : String)
  | array (items : List Value)
  | table (fields : List (String × Value))
  deriving Inhabited

end CatalogSync.Toml
