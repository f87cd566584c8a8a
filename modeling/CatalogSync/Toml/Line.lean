import CatalogSync.Toml.Basic
import CatalogSync.Toml.Token
import CatalogSync.Number.Word

/-!
# Lines of TOML text

A line is the header of a table or of an element of an array of tables, or gives a key its value. Keys may be dotted, on lines and
in inline tables. Values keep the place where they begin, for what may be found wrong with them later.
-/

namespace CatalogSync.Toml

/-- A value as written, with the characters left where it begins. -/
inductive Written where
  | leaf (place : List Char) (value : Value)
  | datetime (place text : List Char)
  | array (place : List Char) (items : List Written)
  /-- An inline table. -/
  | inline (place : List Char) (fields : List (String × Written))
  /-- The table that a dotted key makes. -/
  | dotted (place : List Char) (fields : List (String × Written))
  deriving Inhabited

/-- The place where a value begins. -/
def Written.place : Written → List Char
  | leaf p _ | datetime p _ | array p _ | inline p _ | dotted p _ => p

/-- A line. -/
inductive Line where
  | header (place : List Char) (path : List String) (isArray : Bool)
  | pair (key : List String) (place : List Char) (value : Written)

/-- Skips blanks. -/
def skipBlank (cs : List Char) : List Char := cs.dropWhile isBlankChar

/-- Takes the given token if it is the next one. -/
def eat? (t : Token) (cs : List Char) : Reading (Option (List Char)) := do
  match ← token? cs with
  | some (found, rest) => return if found = t then some rest else none
  | none => return none

/-- Takes the given token, which must be the next one. -/
def expect (t : Token) (cs : List Char) : Reading (List Char) := do
  match ← token? cs with
  | some (found, rest) => if found = t then return rest else faultAt (.wanted t.describe found.describe) cs
  | none => faultAt (.wanted t.describe "eof") []

/-- Takes the end of a line or of the text. -/
def endOfLine (cs : List Char) : Reading (List Char) := do
  match ← token? cs with
  | none => return []
  | some (.newline, rest) => return rest
  | some (found, _) => faultAt (.wanted "newline" found.describe) cs

/-- Takes a comment with the end of its line, if there is one. -/
def comment? (cs : List Char) : Reading (Option (List Char)) :=
  match cs with
  | '#' :: rest => (endOfLine (rest.dropWhile isCommentChar)).map some
  | _ => .ok none

/-- Takes one key. -/
def simpleKey (cs : List Char) : Reading (String × List Char) := do
  match ← token? cs with
  | some (.bare text, rest) => return (String.ofList text, rest)
  | some (.str _ true, _) => faultAt .multilineKey cs
  | some (.str value false, rest) =>
    let written := cs.take (cs.length - rest.length)
    if written.contains '\n' then faultAt .newlineInKey (cs.dropWhile (· ≠ '\n')) else return (String.ofList value, rest)
  | some (found, _) => faultAt (.wanted "a table key" found.describe) cs
  | none => faultAt (.wanted "a table key" "eof") []

/-- Takes a key of parts between periods, and the blanks after it. -/
def dottedKey : Nat → List Char → Reading (List String × List Char)
  | 0, cs => faultAt .unexpectedEnd cs
  | fuel + 1, cs => do
    let (part, rest) ← simpleKey cs
    let rest := skipBlank rest
    match ← eat? .period rest with
    | none => return ([part], rest)
    | some rest =>
      let (parts, rest) ← dottedKey fuel (skipBlank rest)
      return (part :: parts, rest)

/-- Adds a value under a dotted key to fields. -/
def addDotted (place : List Char) (value : Written) : List String → List (String × Written) → Reading (List (String × Written))
  | [], fields => .ok fields
  | [key], fields => .ok (fields ++ [(key, value)])
  | key :: rest, fields =>
    match fields.span fun f => f.1 ≠ key with
    | (before, (_, .dotted start inner) :: after) => do
      return before ++ (key, .dotted start (← addDotted place value rest inner)) :: after
    | (_, (_, other) :: _) => faultAt .dottedKeyOfNoTable other.place
    | (before, []) => do return before ++ [(key, .dotted place (← addDotted place value rest []))]

/-! ## Numbers -/

/-- Whether a character is a digit of a base up to sixteen. -/
def isDigitOf (base : Nat) (c : Char) : Bool := (Text.hexDigit? c).any (· < base)

/-- Splits digits off a run of characters at a place: the digits with underscores between them, and what follows. A number must
begin with a digit, must not end with an underscore, and has no needless zero in front unless that is allowed. The number itself
begins at `start`. -/
def digitRun (allowZeros : Bool) (base : Nat) (start place cs : List Char) : Reading (List Char × List Char) :=
  go false false false [] place cs
where
  /-- Goes through the characters, knowing whether a digit was seen, whether the first was zero, and whether the last was an
  underscore. -/
  go (seen firstZero underscore : Bool) (acc place : List Char) : List Char → Reading (List Char × List Char)
    | [] => finish seen underscore acc []
    | c :: rest =>
      if c == '0' && !seen then go true true underscore (c :: acc) place.tail rest
      else if isDigitOf base c then
        if seen && firstZero && !allowZeros then faultAt .badNumber place
        else go true firstZero false (c :: acc) place.tail rest
      else if c == '_' && !seen then faultAt .badNumber place
      else if c == '_' && !underscore then go seen firstZero true (c :: acc) place.tail rest
      else finish seen underscore acc (c :: rest)
  /-- The digits and what follows, unless there is no digit or an underscore comes last. -/
  finish (seen underscore : Bool) (acc rest : List Char) : Reading (List Char × List Char) :=
    if !seen || underscore then faultAt .badNumber start else .ok (acc.reverse, rest)

/-- Takes a sign off: whether it is a minus. -/
def takeSign : List Char → Bool × List Char
  | '-' :: rest => (true, rest)
  | '+' :: rest => (false, rest)
  | cs => (false, cs)

/-- The value of digits with underscores between them. -/
def digitValue (base : Nat) (cs : List Char) : Nat := (cs.filterMap Text.hexDigit?).foldl (fun n d => base * n + d) 0

/-- Splits a decimal number with a sign off a run of characters: whether it is negative, its digits, and what follows. -/
def signedRun (allowZeros : Bool) (place cs : List Char) : Reading (Bool × List Char × List Char) := do
  let (negative, digits) := takeSign cs
  let (digits, rest) ← digitRun allowZeros 10 place (place.drop (cs.length - digits.length)) digits
  return (negative, digits, rest)

/-- The whole number written in a base by a run of characters, which must fit 64 bits with a sign. -/
def wholeNumber (base : Nat) (place cs : List Char) : Reading Value := do
  let (negative, digits, rest) ←
    if base = 10 then signedRun false place cs
    else do
      let (digits, rest) ← digitRun true base place place cs
      pure (false, digits, rest)
  let n : Int := digitValue base digits
  let n := if negative then -n else n
  if rest.isEmpty && Word.isSigned n then return .integer n else faultAt .badNumber place

/-- Reads the exponent of a number at `place` from the characters of its run that are left, or from the tokens after a plus. -/
def exponent (place suffix cs : List Char) : Reading (Int × List Char) := do
  match suffix with
  | [] => return (0, cs)
  | [c] =>
    if c ≠ 'e' && c ≠ 'E' then faultAt .badNumber place
    let cs := (← eat? .plus cs).getD cs
    match ← token? cs with
    | some (.bare text, after) =>
      let (digits, rest) ← digitRun true 10 cs cs text
      if rest.isEmpty then return ((digitValue 10 digits : Nat), after) else faultAt .badNumber place
    | _ => faultAt .badNumber place
  | c :: more =>
    if c ≠ 'e' && c ≠ 'E' then faultAt .badNumber place
    let (negative, digits, rest) ← signedRun true place more
    if !rest.isEmpty then faultAt .badNumber place
    let n : Int := digitValue 10 digits
    return (if negative then -n else n, cs)

/-- Reads a number with a fraction or an exponent: the run of characters before a period, the one after it if there is one, with
their places, and the tokens that follow. -/
def decimal (place cs : List Char) (after : Option (List Char × List Char)) (rest : List Char) :
    Reading (Value × List Char) := do
  let (negative, whole, suffix) ← signedRun false place cs
  let (fraction, suffix) ←
    match after with
    | none => pure ([], suffix)
    | some (fractionPlace, fraction) =>
      if !suffix.isEmpty then faultAt .badNumber place
      digitRun true 10 fractionPlace fractionPlace fraction
  let (e, rest) ← exponent place suffix rest
  let fraction := fraction.filter (· ≠ '_')
  match Binary64.ofDecimal negative (digitValue 10 (whole ++ fraction)) (e - fraction.length) with
  | some x => return (.float (.finite x), rest)
  | none => faultAt .badNumber place

/-- Reads a number from the run of characters that it begins with at a place, and the tokens after it. -/
def number (place run rest : List Char) : Reading (Value × List Char) := do
  match run with
  | '0' :: 'x' :: digits => return (← wholeNumber 16 (place.drop 2) digits, rest)
  | '0' :: 'o' :: digits => return (← wholeNumber 8 (place.drop 2) digits, rest)
  | '0' :: 'b' :: digits => return (← wholeNumber 2 (place.drop 2) digits, rest)
  | _ =>
    if run.contains 'e' || run.contains 'E' then decimal place run none rest
    else
      match ← eat? .period rest with
      | some rest =>
        match ← token? rest with
        | some (.bare fraction, after) => decimal place run (some (rest, fraction)) after
        | _ => faultAt .badNumber rest
      | none =>
        if run = "inf".toList then return (.float (.infinite false), rest)
        else if run = "-inf".toList then return (.float (.infinite true), rest)
        else if run = "nan".toList || run = "-nan".toList then return (.float .nan, rest)
        else return (← wholeNumber 10 place run, rest)

/-! ## Dates and times -/

/-- Takes a run of letters and digits. -/
def dateRun (place cs : List Char) : Reading (List Char) := do
  match ← token? cs with
  | some (.bare _, rest) => return rest
  | _ => faultAt .badDate place

/-- The characters after an hour that follows a single blank, if one does. -/
def skipHour (cs : List Char) : List Char :=
  match token? cs with
  | .ok (some (.blank, rest)) =>
    if cs.take (cs.length - rest.length) = [' '] then
      match token? rest with
      | .ok (some (.bare _, after)) => after
      | _ => cs
    else cs
  | _ => cs

/-- Takes the rest of a date or time that began at a place; `inTime` says that the colon after the hour is taken. -/
def dateRest (place : List Char) (inTime : Bool) (cs : List Char) : Reading (List Char) := do
  let cs := skipHour cs
  let minutes ← if inTime then pure (some cs) else eat? .colon cs
  match minutes with
  | none => return cs
  | some cs =>
    let cs ← expect .colon (← dateRun place cs)
    let cs ← dateRun place cs
    let cs ← match ← eat? .period cs with
      | some cs => dateRun place cs
      | none => pure cs
    let cs ← match ← eat? .plus cs with
      | some cs => dateRun place cs
      | none => pure cs
    match ← eat? .colon cs with
    | some cs => dateRun place cs
    | none => return cs

/-- Whether a run of characters begins a date. -/
def beginsDate (run : List Char) : Bool :=
  let has (a b : Char) : Bool := (run.zip run.tail).contains (a, b)
  run.contains 'T' || run.contains 't' || (run.tail.contains '-' && !has 'e' '-' && !has 'E' '-')

/-- Reads a number or a date from the run of characters that it begins with at a place, and the tokens after it. -/
def numberOrDate (place run rest : List Char) : Reading (Written × List Char) := do
  let date (rest : List Char) : Written × List Char := (.datetime place (place.take (place.length - rest.length)), rest)
  if beginsDate run then return date (← dateRest place false rest)
  match ← eat? .colon rest with
  | some rest => return date (← dateRest place true rest)
  | none =>
    let (value, rest) ← number place run rest
    return (.leaf place value, rest)

/-! ## Values -/

/-- Skips blanks, line ends and comments. -/
def skipFiller : Nat → List Char → Reading (List Char)
  | 0, cs => .ok cs
  | fuel + 1, cs => do
    let cs := skipBlank cs
    match ← eat? .newline cs with
    | some rest => skipFiller fuel rest
    | none =>
      match ← comment? cs with
      | some rest => skipFiller fuel rest
      | none => return cs

mutual

/-- Reads a value. -/
def value : Nat → List Char → Reading (Written × List Char)
  | 0, cs => faultAt .unexpectedEnd cs
  | fuel + 1, cs => do
    match ← token? cs with
    | none => faultAt .unexpectedEnd []
    | some (.str s _, rest) => return (.leaf cs (.string (String.ofList s)), rest)
    | some (.bare run, rest) =>
      if run = "true".toList then return (.leaf cs (.boolean true), rest)
      else if run = "false".toList then return (.leaf cs (.boolean false), rest)
      else if run = "inf".toList || run = "nan".toList || run.head?.any (fun c => c == '-' || c.isDigit) then
        numberOrDate cs run rest
      else faultAt .unquotedString cs
    | some (.plus, rest) =>
      match ← token? rest with
      | some (.bare run, after) =>
        let (n, after) ← number rest run after
        return (.leaf cs n, after)
      | _ => faultAt .badNumber rest
    | some (.leftBrace, rest) =>
      let rest := skipBlank rest
      match ← eat? .rightBrace rest with
      | some rest => return (.inline cs [], rest)
      | none =>
        let (fields, rest) ← inlineFields fuel [] rest
        return (.inline cs fields, rest)
    | some (.leftBracket, rest) =>
      let (items, rest) ← arrayItems fuel rest
      return (.array cs items, rest)
    | some (found, _) => faultAt (.wanted "a value" found.describe) cs

/-- Reads the items of an array and its closing bracket. -/
def arrayItems : Nat → List Char → Reading (List Written × List Char)
  | 0, cs => faultAt .unexpectedEnd cs
  | fuel + 1, cs => do
    let cs ← skipFiller (cs.length + 1) cs
    match ← eat? .rightBracket cs with
    | some rest => return ([], rest)
    | none =>
      let (item, rest) ← value fuel cs
      let rest ← skipFiller (rest.length + 1) rest
      match ← eat? .comma rest with
      | some rest =>
        let (items, rest) ← arrayItems fuel rest
        return (item :: items, rest)
      | none => return ([item], ← expect .rightBracket rest)

/-- Reads the fields of an inline table and its closing brace, after the given fields. -/
def inlineFields : Nat → List (String × Written) → List Char → Reading (List (String × Written) × List Char)
  | 0, _, cs => faultAt .unexpectedEnd cs
  | fuel + 1, fields, cs => do
    let (key, rest) ← dottedKey (cs.length + 1) cs
    let rest := skipBlank (← expect .equals rest)
    let (v, after) ← value fuel rest
    let fields ← addDotted rest v key fields
    let after := skipBlank after
    match ← eat? .rightBrace after with
    | some after => return (fields, after)
    | none => inlineFields fuel fields (skipBlank (← expect .comma after))

end

/-! ## Lines -/

/-- Takes a comment or nothing, and the end of the line. -/
def restOfLine (cs : List Char) : Reading (List Char) := do
  let cs := skipBlank cs
  match ← comment? cs with
  | some rest => return rest
  | none => endOfLine cs

/-- Reads the path of a header and its closing brackets. -/
def headerPath (isArray : Bool) : Nat → List Char → Reading (List String × List Char)
  | 0, cs => faultAt .unexpectedEnd cs
  | fuel + 1, cs => do
    let (part, rest) ← simpleKey (skipBlank cs)
    let rest := skipBlank rest
    match ← eat? .period rest with
    | some rest =>
      let (parts, rest) ← headerPath isArray fuel rest
      return (part :: parts, rest)
    | none =>
      let rest ← expect .rightBracket rest
      let rest ← if isArray then expect .rightBracket rest else pure rest
      return ([part], ← restOfLine rest)

/-- Reads the next line that is not empty, if there is one. -/
def line? (cs : List Char) : Reading (Option (Line × List Char)) := do
  let cs ← skipFiller (cs.length + 1) cs
  match ← token? cs with
  | none => return none
  | some (.leftBracket, rest) =>
    let array ← eat? .leftBracket rest
    let (path, after) ← headerPath array.isSome (cs.length + 1) (array.getD rest)
    return some (.header cs path array.isSome, after)
  | some _ =>
    let (key, rest) ← dottedKey (cs.length + 1) cs
    let rest := skipBlank (← expect .equals rest)
    let (v, after) ← value (rest.length + 1) rest
    return some (.pair key rest v, ← restOfLine after)

end CatalogSync.Toml
