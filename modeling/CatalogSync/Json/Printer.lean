import CatalogSync.Json.Basic
import CatalogSync.Number.Shortest

/-!
# Compact JSON text

A value is written without blanks. Within strings only quotes, backslashes and control characters are escaped; whole numbers are
written in decimal and binary64 numbers as their shortest decimal.
-/

namespace CatalogSync.Json

/-- A hexadecimal digit of a control character's escape. -/
def escapeDigit (n : Nat) : Char := (Nat.toDigits 16 n).headD '0'

/-- The form of one character within a JSON string. -/
def escapeChar (c : Char) : List Char :=
  if c == '"' then ['\\', '"']
  else if c == '\\' then ['\\', '\\']
  else if c == '\x08' then ['\\', 'b']
  else if c == '\x0c' then ['\\', 'f']
  else if c == '\n' then ['\\', 'n']
  else if c == '\x0d' then ['\\', 'r']
  else if c == '\t' then ['\\', 't']
  else if c.toNat < 0x20 then ['\\', 'u', '0', '0', escapeDigit (c.toNat / 16), escapeDigit (c.toNat % 16)]
  else [c]

/-- Appends a string with its quotes and escapes. -/
def renderString (out : String) (s : String) : String :=
  (s.foldl (fun acc c => (escapeChar c).foldl String.push acc) (out.push '"')).push '"'

/-- The text of a number. -/
def Number.render : Number → String
  | .int n => toString n
  | .float x => DecimalLayout.json.render x

mutual

/-- Appends the text of a value. -/
def renderTo (out : String) : Json → String
  | .null => out ++ "null"
  | .bool true => out ++ "true"
  | .bool false => out ++ "false"
  | .num n => out ++ n.render
  | .str s => renderString out s
  | .arr items => (renderItems (out.push '[') true items).push ']'
  | .obj fields => (renderFields (out.push '\x7b') true fields).push '\x7d'

/-- Appends the items of an array, with a comma before each but the first. -/
def renderItems (out : String) (first : Bool) : List Json → String
  | [] => out
  | v :: rest => renderItems (renderTo (if first then out else out.push ',') v) false rest

/-- Appends the fields of an object, with a comma before each but the first. -/
def renderFields (out : String) (first : Bool) : List (String × Json) → String
  | [] => out
  | (k, v) :: rest =>
    renderFields (renderTo ((renderString (if first then out else out.push ',') k).push ':') v) false rest

end

/-- The compact text of a value. -/
def render (v : Json) : String := renderTo "" v

end CatalogSync.Json
