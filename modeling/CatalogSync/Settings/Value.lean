import CatalogSync.Json.Decode
import CatalogSync.Number.Extended
import CatalogSync.Text.Lowercase
import CatalogSync.Toml.Basic
import CatalogSync.Number.Word

/-!
# Values of settings

A setting is a value from a file or from the environment and knows where it came from. Where a number or a switch is wanted, texts,
numbers and switches are converted into one another as far as they can be.
-/

namespace CatalogSync

/-- A setting without parts. -/
inductive Scalar where
  | nothing
  | switch (b : Bool)
  | whole (n : Int)
  | real (x : Extended)
  | text (s : String)
  deriving DecidableEq, Repr, Inhabited

/-- A setting with its origin. Tables made by layering settings have none. -/
inductive Setting where
  | scalar (origin : Option String) (value : Scalar)
  | array (origin : Option String) (items : List Setting)
  | table (origin : Option String) (fields : List (String × Setting))
  deriving Inhabited

namespace Setting

/-- Nothing, from nowhere. -/
def nothing : Setting := scalar none .nothing

/-- The table without fields, from nowhere. -/
def empty : Setting := table none []

/-- Where a setting came from. -/
def origin : Setting → Option String
  | scalar o _ | array o _ | table o _ => o

mutual

/-- A JSON value from a file as a setting. Whole numbers beyond 64 bits with a sign are rounded to binary64. -/
def ofJson (origin : Option String) : Json → Setting
  | .null => scalar origin .nothing
  | .bool b => scalar origin (.switch b)
  | .num (.int n) =>
    if Word.isSigned n then scalar origin (.whole n)
    else scalar origin (.real (((Binary64.ofNat n.toNat).map Extended.finite).getD (.infinite false)))
  | .num (.float x) => scalar origin (.real (.finite x))
  | .str s => scalar origin (.text s)
  | .arr items => array origin (ofJsonItems origin items)
  | .obj fields => table origin (ofJsonFields origin fields)

/-- JSON values as settings. -/
def ofJsonItems (origin : Option String) : List Json → List Setting
  | [] => []
  | v :: rest => ofJson origin v :: ofJsonItems origin rest

/-- The fields of a JSON object as settings. -/
def ofJsonFields (origin : Option String) : List (String × Json) → List (String × Setting)
  | [] => []
  | (k, v) :: rest => (k, ofJson origin v) :: ofJsonFields origin rest

end

mutual

/-- A TOML value from a file as a setting. Dates and times are texts. -/
def ofToml (origin : Option String) : Toml.Value → Setting
  | .string s => scalar origin (.text s)
  | .integer n => scalar origin (.whole n)
  | .float x => scalar origin (.real x)
  | .boolean b => scalar origin (.switch b)
  | .datetime s => scalar origin (.text s)
  | .array items => array origin (ofTomlItems origin items)
  | .table fields => table origin (ofTomlFields origin fields)

/-- TOML values as settings. -/
def ofTomlItems (origin : Option String) : List Toml.Value → List Setting
  | [] => []
  | v :: rest => ofToml origin v :: ofTomlItems origin rest

/-- The fields of a TOML table as settings. -/
def ofTomlFields (origin : Option String) : List (String × Toml.Value) → List (String × Setting)
  | [] => []
  | (k, v) :: rest => (k, ofToml origin v) :: ofTomlFields origin rest

end

/-- A scalar as JSON. JSON has no infinities: a zero stands for them. -/
def ofScalar : Scalar → Json
  | .nothing => .null
  | .switch b => .bool b
  | .whole n => .ofInt n
  | .real (.finite x) => .num (.float x)
  | .real _ => .num (.float (.zero false))
  | .text s => .str s

mutual

/-- A setting as JSON. -/
def toJson : Setting → Json
  | scalar _ s => ofScalar s
  | array _ items => .arr (toJsonItems items)
  | table _ fields => .ofFields (toJsonFields fields)

/-- Settings as JSON values. -/
def toJsonItems : List Setting → List Json
  | [] => []
  | v :: rest => toJson v :: toJsonItems rest

/-- The fields of a table as JSON. -/
def toJsonFields : List (String × Setting) → List (String × Json)
  | [] => []
  | (k, v) :: rest => (k, toJson v) :: toJsonFields rest

end

/-- What a message calls a setting that was found. -/
def found : Setting → String
  | scalar _ .nothing => "unit value"
  | scalar _ (.switch b) => "boolean `" ++ toString b ++ "`"
  | scalar _ (.whole n) => "integer 64 bit `" ++ toString n ++ "`"
  | scalar _ (.real x) => "floating point `" ++ x.render .plain ++ "`"
  | scalar _ (.text s) => "string " ++ Text.quoted s
  | array _ _ => "sequence"
  | table _ _ => "map"

end Setting

/-- Why settings could not be loaded. -/
inductive SettingsFault where
  /-- A setting that does not fit its type. -/
  | misfit (m : Misfit)
  /-- A setting that cannot be converted to what is wanted, with its key and its origin. -/
  | unconvertible (found expected key : String) (origin : Option String)
  | noFile (path : String)
  /-- A file that is not well formed. -/
  | badFile (message file : String)

namespace SettingsFault

/-- The text of a fault. -/
def message : SettingsFault → String
  | misfit m => m.message .settings
  | unconvertible found expected key origin =>
    "invalid type: " ++ found ++ ", expected " ++ expected ++ (if key = "" then "" else " for key `" ++ key ++ "`") ++
      (match origin with
        | some o => " in " ++ o
        | none => "")
  | noFile path => "configuration file \"" ++ path ++ "\" not found"
  | badFile message file => message ++ " in " ++ file

/-- The fault of a setting below the given key or index. -/
def below (part : String) : SettingsFault → SettingsFault
  | unconvertible found expected key origin =>
    unconvertible found expected (part ++ (if key = "" || key.startsWith "[" then "" else ".") ++ key) origin
  | fault => fault

end SettingsFault

namespace Setting

/-- The fault of a setting that cannot be converted. -/
def unconvertible {α : Type} (v : Setting) (expected : String) : Except SettingsFault α :=
  .error (.unconvertible v.found expected "" v.origin)

/-- The natural number that a decimal text stands for, if it fits 64 bits; a plus sign may come first. -/
def word? (s : String) : Option Nat :=
  let digits := match s.toList with
    | '+' :: rest => rest
    | cs => cs
  if digits.isEmpty || !digits.all Char.isDigit then none
  else
    let n := digits.foldl (fun n c => 10 * n + (c.toNat - '0'.toNat)) 0
    if n < Word.count then some n else none

/-- The switch that a text in small letters stands for. -/
def switch? (s : String) : Option Bool :=
  if s == "true" || s == "on" || s == "yes" then some true
  else if s == "false" || s == "off" || s == "no" then some false
  else none

/-- A setting as a natural number of 64 bits. -/
def toWord : Setting → Except SettingsFault Nat
  | scalar o (.text s) =>
    match switch? (Text.lowercase s) with
    | some b => .ok b.toNat
    | none =>
      match word? s with
      | some n => .ok n
      | none => unconvertible (scalar o (.text s)) "an integer"
  | scalar _ (.switch b) => .ok b.toNat
  | scalar _ (.real x) => .ok (x.toNat Word.greatest)
  | scalar o (.whole n) =>
    if 0 ≤ n then .ok n.toNat else unconvertible (scalar o (.whole n)) "an unsigned 64 bit or less integer"
  | v => unconvertible v "an integer"

/-- A setting as a switch. -/
def toSwitch : Setting → Except SettingsFault Bool
  | scalar o (.text s) =>
    let small := Text.lowercase s
    match switch? small with
    | some b => .ok b
    | none =>
      if small == "1" then .ok true
      else if small == "0" then .ok false
      else unconvertible (scalar o (.text small)) "a boolean"
  | scalar _ (.switch b) => .ok b
  | scalar _ (.real x) => .ok (!x.isZero)
  | scalar _ (.whole n) => .ok (n != 0)
  | v => unconvertible v "a boolean"

/-- A setting as a text. -/
def toText : Setting → Except SettingsFault String
  | scalar _ (.text s) => .ok s
  | scalar _ (.switch b) => .ok (toString b)
  | scalar _ (.real x) => .ok (x.render .plain)
  | scalar _ (.whole n) => .ok (toString n)
  | v => unconvertible v "a string"

end Setting

end CatalogSync
