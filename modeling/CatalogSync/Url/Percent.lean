import CatalogSync.Text.CharTable

/-!
# Percent encoding

A character outside the safe ones is written as the bytes of its UTF-8 form, each as `%` and two hexadecimal digits. Characters
beyond ASCII and controls are never safe; each part of a URL has further characters that are not.
-/

namespace CatalogSync.Url

/-- An upper-case hexadecimal digit. -/
def upperHexDigit (n : Nat) : Char := ((Nat.toDigits 16 n).headD '0').toUpper

/-- A byte as `%` and two hexadecimal digits. -/
def encodeByte (b : UInt8) : List Char := ['%', upperHexDigit (b.toNat / 16), upperHexDigit (b.toNat % 16)]

/-- Whether a character is encoded in every part of a URL. -/
def isControl (c : Char) : Bool := c.toNat < 0x20 || 0x7e < c.toNat

/-- Whether a character is encoded in a fragment. -/
def inFragmentSet (c : Char) : Bool := isControl c || [' ', '"', '<', '>', '\x60'].contains c

/-- Whether a character is encoded in a query; URLs with a special scheme also encode the apostrophe. -/
def inQuerySet (special : Bool) (c : Char) : Bool :=
  isControl c || [' ', '"', '#', '<', '>'].contains c || (special && c == '\'')

/-- Whether a character is encoded in a path. -/
def inPathSet (c : Char) : Bool := inFragmentSet c || ['#', '?', '\x7b', '\x7d'].contains c

/-- Whether a character is encoded in a user name or a password. -/
def inUserInfoSet (c : Char) : Bool :=
  inPathSet c || ['/', ':', ';', '=', '@', '[', '\\', ']', '^', '|'].contains c

/-- A character, encoded if `isUnsafe` holds of it. -/
def encodeChar (isUnsafe : Char → Bool) (c : Char) : List Char :=
  if isUnsafe c then (String.utf8EncodeChar c).flatMap encodeByte else [c]

/-- A text with every character encoded of which `isUnsafe` holds. -/
def encode (isUnsafe : Char → Bool) (cs : List Char) : List Char := cs.flatMap (encodeChar isUnsafe)

/-- The bytes of a text with its percent encodings resolved; a `%` without two digits stands for itself. -/
def decodeBytes : List Char → List UInt8
  | [] => []
  | '%' :: a :: b :: rest =>
    match Text.hexDigit? a, Text.hexDigit? b with
    | some m, some n => UInt8.ofNat (16 * m + n) :: decodeBytes rest
    | _, _ => (String.utf8EncodeChar '%') ++ decodeBytes (a :: b :: rest)
  | c :: rest => String.utf8EncodeChar c ++ decodeBytes rest

/-- The text that bytes are the UTF-8 form of, if they are one. -/
def textOfBytes? (bytes : List UInt8) : Option (List Char) :=
  (String.fromUTF8? ⟨bytes.toArray⟩).map String.toList

end CatalogSync.Url
