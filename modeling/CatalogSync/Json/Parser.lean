import CatalogSync.Json.Basic
import CatalogSync.Text.CharTable
import CatalogSync.Number.Word

/-!
# Reading JSON text

The reader works on the characters that are left. What is wrong with a text is a `Fault`, together with the characters left at
the place it is seen, from which line and column are counted. A whole number that does not fit 64 bits, and any number with a
fraction, an exponent or the form `-0`, is read as binary64: its leading digits that fit 64 bits, rounded, times or over the
rounded power of ten.
-/

namespace CatalogSync.Json

/-- What is wrong with a JSON text. -/
inductive Fault where
  | endInList | endInObject | endInString | endInValue
  | colonExpected | listEndExpected | objectEndExpected | identExpected | valueExpected
  | invalidEscape | invalidNumber | numberOutOfRange | controlInString
  | keyMustBeString | loneSurrogate | endOfHexEscape | trailingComma | trailingCharacters | tooDeep
  deriving DecidableEq, Repr

/-- The wording of a fault. -/
def Fault.message : Fault → String
  | .endInList => "EOF while parsing a list"
  | .endInObject => "EOF while parsing an object"
  | .endInString => "EOF while parsing a string"
  | .endInValue => "EOF while parsing a value"
  | .colonExpected => "expected `:`"
  | .listEndExpected => "expected `,` or `]`"
  | .objectEndExpected => "expected `,` or `\x7d`"
  | .identExpected => "expected ident"
  | .valueExpected => "expected value"
  | .invalidEscape => "invalid escape"
  | .invalidNumber => "invalid number"
  | .numberOutOfRange => "number out of range"
  | .controlInString => "control character (\\u0000-\\u001F) found while parsing a string"
  | .keyMustBeString => "key must be a string"
  | .loneSurrogate => "lone leading surrogate in hex escape"
  | .endOfHexEscape => "unexpected end of hex escape"
  | .trailingComma => "trailing comma"
  | .trailingCharacters => "trailing characters"
  | .tooDeep => "recursion limit exceeded"

/-- A fault and the characters left once the one that shows it is taken. -/
structure FaultAt where
  fault : Fault
  rest : List Char

/-- What a reading step gives: its result and the characters left. -/
abbrev Parsed (α : Type) := Except FaultAt (α × List Char)

/-- The fault shown by the next character. -/
def faultNext {α : Type} (fault : Fault) (cs : List Char) : Except FaultAt α := .error ⟨fault, cs.tail⟩

/-- The fault shown by the character just taken. -/
def faultHere {α : Type} (fault : Fault) (cs : List Char) : Except FaultAt α := .error ⟨fault, cs⟩

/-- Whether JSON allows the character between tokens. -/
def isSpace (c : Char) : Bool := c == ' ' || c == '\n' || c == '\t' || c == '\x0d'

/-- The characters from the next token on. -/
def skipSpace (cs : List Char) : List Char := cs.dropWhile isSpace

/-- The value of a decimal digit. -/
def digit? (c : Char) : Option Nat := if c.isDigit then some (c.toNat - '0'.toNat) else none

/-- Takes digits into `n` as long as it fits 64 bits: the number, the count of digits taken, and the characters left. -/
def takeDigits (n count : Nat) : List Char → Nat × Nat × List Char
  | [] => (n, count, [])
  | c :: rest =>
    match digit? c with
    | none => (n, count, c :: rest)
    | some d => if Word.greatest < n * 10 + d then (n, count, c :: rest) else takeDigits (n * 10 + d) (count + 1) rest

/-- The number `significand * 10 ^ exponent` as read: both factors are rounded before they are multiplied or divided. -/
def scaled (negative : Bool) (significand : Nat) (exponent : Int) : Option Binary64 := do
  let base ← Binary64.ofNat significand
  let scale (x : Binary64) (e : Int) : Option Binary64 := do
    let power ← Binary64.ofNat (Nat.pow 10 e.natAbs)
    if 0 ≤ e then x.mul power else x.div power
  let magnitude ←
    if exponent.natAbs ≤ 308 then scale base exponent
    else if base.isZero then some base
    else if 0 ≤ exponent then none
    else if -616 ≤ exponent then do scale (← scale base (-308)) (exponent + 308)
    else some (.zero false)
  return if negative then magnitude.neg else magnitude

/-- The number scaled by the exponent, or the fault that it is too large. -/
def scaledOr (negative : Bool) (significand : Nat) (exponent : Int) (cs : List Char) : Parsed Json :=
  match scaled negative significand exponent with
  | some x => .ok (.num (.float x), cs)
  | none => faultHere .numberOutOfRange cs

/-- The size from which on an exponent counts as too large to tell from others. -/
def exponentCap : Nat := 0x80000000

/-- Reads the exponent after its letter. -/
def parseExponent (negative : Bool) (significand : Nat) (exponent : Int) (cs : List Char) : Parsed Json :=
  let (down, cs) := match cs with
    | '+' :: rest => (false, rest)
    | '-' :: rest => (true, rest)
    | _ => (false, cs)
  match cs with
  | [] => faultHere .endInValue []
  | c :: rest =>
    match digit? c with
    | none => faultHere .invalidNumber rest
    | some d =>
      let digits := rest.takeWhile Char.isDigit
      let rest := rest.dropWhile Char.isDigit
      let size := digits.foldl (fun n c => min (n * 10 + (digit? c).getD 0) exponentCap) d
      if size = exponentCap then
        if significand ≠ 0 ∧ !down then faultHere .numberOutOfRange rest else .ok (.num (.float (.zero negative)), rest)
      else scaledOr negative significand (if down then exponent - size else exponent + size) rest

/-- Reads what follows the digits of a number that is known to be binary64. -/
def parseScale (negative : Bool) (significand : Nat) (exponent : Int) (cs : List Char) : Parsed Json :=
  match cs with
  | 'e' :: rest | 'E' :: rest => parseExponent negative significand exponent rest
  | _ => scaledOr negative significand exponent cs

/-- Reads the digits after the decimal point. -/
def parseFraction (negative : Bool) (significand : Nat) (exponent : Int) (cs : List Char) : Parsed Json :=
  let (n, count, rest) := takeDigits significand 0 cs
  match rest with
  | c :: _ =>
    if c.isDigit then parseScale negative n (exponent - count) (rest.dropWhile Char.isDigit)
    else if count = 0 then faultNext .invalidNumber rest
    else parseScale negative n (exponent - count) rest
  | [] => if count = 0 then faultNext .endInValue [] else parseScale negative n (exponent - count) []

/-- Reads a number after its sign. -/
def parseNumber (negative : Bool) (cs : List Char) : Parsed Json :=
  match cs with
  | [] => faultHere .endInValue []
  | c :: rest =>
    match digit? c with
    | none => faultHere .invalidNumber rest
    | some first =>
      if first = 0 && (rest.head?.any Char.isDigit) then faultNext .invalidNumber rest
      else
        let (n, _, rest) := if first = 0 then (0, 0, rest) else takeDigits first 1 rest
        let surplus := rest.takeWhile Char.isDigit
        let rest := rest.dropWhile Char.isDigit
        match rest with
        | '.' :: after => parseFraction negative n surplus.length after
        | 'e' :: after | 'E' :: after => parseExponent negative n surplus.length after
        | _ =>
          if surplus ≠ [] then scaledOr negative n surplus.length rest
          else if !negative then .ok (.num (.int n), rest)
          else if n = 0 ∨ !Word.isSigned (-n) then scaledOr true n 0 rest
          else .ok (.num (.int (-n)), rest)

/-- The value of four hexadecimal digits. -/
def parseHex4 (cs : List Char) : Except FaultAt (Nat × List Char) :=
  let digits := cs.take 4
  let rest := cs.drop 4
  if digits.length < 4 then faultHere .endInString []
  else if digits.all fun c => (Text.hexDigit? c).isSome then .ok (Text.hexValue digits, rest)
  else faultHere .invalidEscape rest

/-- Reads the code point of an escape after its `u`; one beyond 16 bits is written as two halves. -/
def parseCodePoint (cs : List Char) : Except FaultAt (Char × List Char) := do
  let (high, rest) ← parseHex4 cs
  if 0xdc00 ≤ high ∧ high ≤ 0xdfff then faultHere .loneSurrogate rest
  else if 0xd800 ≤ high ∧ high ≤ 0xdbff then
    match rest with
    | '\\' :: 'u' :: rest => do
      let (low, rest) ← parseHex4 rest
      if low < 0xdc00 ∨ 0xdfff < low then faultHere .loneSurrogate rest
      else .ok (Char.ofNat (0x10000 + (high - 0xd800) * 0x400 + (low - 0xdc00)), rest)
    | '\\' :: _ :: rest => faultHere .endOfHexEscape rest
    | ['\\'] | [] => faultHere .endInString []
    | _ :: rest => faultHere .endOfHexEscape rest
  else .ok (Char.ofNat high, rest)

/-- Reads the rest of a string after its opening quote. -/
def parseChars (fuel : Nat) (acc : List Char) (cs : List Char) : Parsed String :=
  match fuel with
  | 0 => faultHere .endInString []
  | fuel + 1 =>
    match cs with
    | [] => faultHere .endInString []
    | '"' :: rest => .ok (String.ofList acc.reverse, rest)
    | ['\\'] => faultHere .endInString []
    | '\\' :: c :: rest =>
      match c with
      | '"' | '\\' | '/' => parseChars fuel (c :: acc) rest
      | 'b' => parseChars fuel ('\x08' :: acc) rest
      | 'f' => parseChars fuel ('\x0c' :: acc) rest
      | 'n' => parseChars fuel ('\n' :: acc) rest
      | 'r' => parseChars fuel ('\x0d' :: acc) rest
      | 't' => parseChars fuel ('\t' :: acc) rest
      | 'u' =>
        match parseCodePoint rest with
        | .ok (c, rest) => parseChars fuel (c :: acc) rest
        | .error e => .error e
      | _ => faultHere .invalidEscape rest
    | c :: rest => if c.toNat < 0x20 then faultHere .controlInString rest else parseChars fuel (c :: acc) rest

/-- Reads the letters left of a word such as `null`. -/
def parseWord (value : Json) : List Char → List Char → Parsed Json
  | [], cs => .ok (value, cs)
  | _ :: _, [] => faultHere .endInValue []
  | w :: word, c :: rest => if w = c then parseWord value word rest else faultHere .identExpected rest

mutual

/-- Reads a value that may hold values `depth` deep. -/
def parseValue (fuel depth : Nat) (cs : List Char) : Parsed Json :=
  match fuel with
  | 0 => faultNext .endInValue []
  | fuel + 1 =>
    match skipSpace cs with
    | [] => faultNext .endInValue []
    | 'n' :: rest => parseWord .null ['u', 'l', 'l'] rest
    | 't' :: rest => parseWord (.bool true) ['r', 'u', 'e'] rest
    | 'f' :: rest => parseWord (.bool false) ['a', 'l', 's', 'e'] rest
    | '-' :: rest => parseNumber true rest
    | '"' :: rest => (parseChars (rest.length + 1) [] rest).map fun (s, rest) => (.str s, rest)
    | '[' :: rest => if depth = 0 then faultHere .tooDeep rest else parseItems fuel (depth - 1) true [] rest
    | '\x7b' :: rest => if depth = 0 then faultHere .tooDeep rest else parseFields fuel (depth - 1) true [] rest
    | c :: rest => if c.isDigit then parseNumber false (c :: rest) else faultNext .valueExpected (c :: rest)

/-- Reads the items of an array up to its end. -/
def parseItems (fuel depth : Nat) (first : Bool) (acc : List Json) (cs : List Char) : Parsed Json :=
  match fuel with
  | 0 => faultNext .endInList []
  | fuel + 1 =>
    let item (cs : List Char) : Parsed Json :=
      match parseValue fuel depth cs with
      | .ok (v, rest) => parseItems fuel depth false (v :: acc) rest
      | .error e => .error e
    match skipSpace cs with
    | [] => faultNext .endInList []
    | ']' :: rest => .ok (.arr acc.reverse, rest)
    | c :: rest =>
      if first then item (c :: rest)
      else if c == ',' then
        match skipSpace rest with
        | [] => faultNext .endInValue []
        | ']' :: rest => faultHere .trailingComma rest
        | c :: rest => item (c :: rest)
      else faultNext .listEndExpected (c :: rest)

/-- Reads the fields of an object up to its end. -/
def parseFields (fuel depth : Nat) (first : Bool) (acc : List (String × Json)) (cs : List Char) : Parsed Json :=
  match fuel with
  | 0 => faultNext .endInObject []
  | fuel + 1 =>
    let entry (cs : List Char) : Parsed Json :=
      match parseChars (cs.length + 1) [] cs with
      | .error e => .error e
      | .ok (name, rest) =>
        match skipSpace rest with
        | [] => faultNext .endInObject []
        | ':' :: rest =>
          match parseValue fuel depth rest with
          | .ok (v, rest) => parseFields fuel depth false ((name, v) :: acc) rest
          | .error e => .error e
        | c :: rest => faultNext .colonExpected (c :: rest)
    match skipSpace cs with
    | [] => faultNext .endInObject []
    | '\x7d' :: rest => .ok (.ofFields acc.reverse, rest)
    | c :: rest =>
      if first then if c == '"' then entry rest else faultNext .keyMustBeString (c :: rest)
      else if c == ',' then
        match skipSpace rest with
        | [] => faultNext .endInValue []
        | '"' :: rest => entry rest
        | '\x7d' :: rest => faultHere .trailingComma rest
        | c :: rest => faultNext .keyMustBeString (c :: rest)
      else faultNext .objectEndExpected (c :: rest)

end

/-- How deep arrays and objects may stand within one another. -/
def maxDepth : Nat := 127

/-- Reads a whole text as one value. -/
def parseText (cs : List Char) : Except FaultAt Json :=
  match parseValue (2 * cs.length + 2) maxDepth cs with
  | .error e => .error e
  | .ok (v, rest) =>
    match skipSpace rest with
    | [] => .ok v
    | c :: rest => faultNext .trailingCharacters (c :: rest)

/-- The number of bytes of characters in UTF-8. -/
def byteLength (cs : List Char) : Nat := cs.foldl (fun n c => n + c.utf8Size) 0

/-- The wording of a fault in a text, with its line and its column in bytes. -/
def FaultAt.message (e : FaultAt) (text : List Char) : String :=
  let seen := text.take (text.length - e.rest.length)
  let line := (seen.filter (· == '\n')).length + 1
  let column := byteLength (seen.reverse.takeWhile (· != '\n'))
  e.fault.message ++ " at line " ++ toString line ++ " column " ++ toString column

/-- Reads a text, or words what is wrong with it. -/
def parse (s : String) : Except String Json :=
  match parseText s.toList with
  | .ok v => .ok v
  | .error e => .error (e.message s.toList)

end CatalogSync.Json
