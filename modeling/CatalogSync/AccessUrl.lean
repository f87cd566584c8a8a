import CatalogSync.ModelError
import CatalogSync.Text.Blank
import CatalogSync.Url.Parser

/-!
# Access URLs

A service is known by the URL it is reached at, brought to a canonical form: http or https, no query, no fragment, no slash at
the end of the path. Two URLs with one canonical text are one service, and services are ordered by that text.
-/

namespace CatalogSync

/-- A path without the empty segments at its end; a path always has one segment. -/
def Url.Path.trimmed : Url.Path → Url.Path
  | .segments parts =>
    match (parts.reverse.dropWhile String.isEmpty).reverse with
    | [] => .segments [""]
    | kept => .segments kept
  | .plain text => .plain text

/-- The canonical form of a URL at which a service may be reached, or why there is none. -/
def Url.canonical (u : Url) : Except ModelError Url :=
  if u.scheme ≠ "http" ∧ u.scheme ≠ "https" then
    .error (.invalidAccessUrl u.render ("unsupported scheme '" ++ u.scheme ++ "'"))
  else if u.host.isNone then .error (.invalidAccessUrl u.render "missing host")
  else .ok { u with path := u.path.trimmed, query := none, fragment := none }

/-- The canonical form of the URL that a text is, blanks around it aside. -/
def Url.parseCanonical (s : String) : Except ModelError Url :=
  match Url.parse (Text.trim s) with
  | .ok u => u.canonical
  | .error e => .error (.invalidAccessUrl s e.message)

/-- The canonical URL of a service. -/
structure AccessUrl where
  /-- The text of the canonical URL. -/
  text : String
  deriving DecidableEq, Repr, Inhabited

namespace AccessUrl

/-- The access URL with the canonical form of a URL. -/
def ofUrl (u : Url) : Except ModelError AccessUrl := u.canonical.map fun c => ⟨c.render⟩

/-- Reads an access URL. -/
def parse (s : String) : Except ModelError AccessUrl := (Url.parseCanonical s).map fun c => ⟨c.render⟩

/-- The order of access URLs: that of their texts. -/
instance : Ord AccessUrl := ⟨fun a b => compare a.text b.text⟩

/-- An access URL as JSON. -/
def toJson (u : AccessUrl) : Json := .str u.text

/-- Reads an access URL from JSON. -/
def decode : Decoder AccessUrl := fun v => do
  let s ← Decoder.string v
  match parse s with
  | .ok u => return u
  | .error e => throw (.unfit e.message)

end AccessUrl

end CatalogSync
