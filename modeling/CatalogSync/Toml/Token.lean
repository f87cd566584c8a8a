import CatalogSync.Text.CharTable

/-!
# Tokens of TOML text

A TOML text is read token by token, from the characters that are left. What is wrong with a text is a `Fault`, together with the
characters left at its place and the keys it was found below. A line may end with a carriage return before its line feed.
-/

namespace CatalogSync.Toml

/-- What is wrong with a TOML text. -/
inductive Fault where
  | unexpectedEnd
  | charInString (c : Char)
  | badEscape (c : Char)
  | badHexEscape (c : Char)
  | badEscapeValue (n : Nat)
  | newlineInString
  | unexpected (c : Char)
  | unterminatedString
  | newlineInKey
  | multilineKey
  | badNumber
  | badDate
  | unreadableDate
  | unquotedString
  | wanted (expected found : String)
  | duplicateTable (name : String)
  | duplicateKey (name : String)
  | redefinedAsArray
  | dottedKeyOfNoTable
  deriving DecidableEq, Repr

/-- A character in a message: printable ASCII as it is, the rest escaped. -/
def escaped (c : Char) : String :=
  if c == '\t' then "\\t"
  else if c == '\n' then "\\n"
  else if c == '\x0d' then "\\r"
  else if c == '\'' || c == '"' || c == '\\' then String.ofList ['\\', c]
  else if 0x20 ≤ c.toNat && c.toNat < 0x7f then String.ofList [c]
  else "\\u\x7b" ++ String.ofList (Nat.toDigits 16 c.toNat) ++ "\x7d"

/-- The wording of a fault. -/
def Fault.message : Fault → String
  | unexpectedEnd => "unexpected eof encountered"
  | charInString c => "invalid character in string: `" ++ escaped c ++ "`"
  | badEscape c => "invalid escape character in string: `" ++ escaped c ++ "`"
  | badHexEscape c => "invalid hex escape character in string: `" ++ escaped c ++ "`"
  | badEscapeValue n => "invalid escape value: `" ++ toString n ++ "`"
  | newlineInString => "newline in string found"
  | unexpected c => "unexpected character found: `" ++ escaped c ++ "`"
  | unterminatedString => "unterminated string"
  | newlineInKey => "found newline in table key"
  | multilineKey => "multiline strings are not allowed for key"
  | badNumber => "invalid number"
  | badDate => "invalid date"
  | unreadableDate => "failed to parse datetime"
  | unquotedString => "invalid TOML value, did you mean to use a quoted string?"
  | wanted expected found => "expected " ++ expected ++ ", found " ++ found
  | duplicateTable name => "redefinition of table `" ++ name ++ "`"
  | duplicateKey name => "duplicate key: `" ++ name ++ "`"
  | redefinedAsArray => "table redefined as array"
  | dottedKeyOfNoTable => "dotted key attempted to extend non-table type"

/-- A fault, the characters left at its place, and the keys it was found below. -/
structure FaultAt where
  fault : Fault
  place : List Char
  keys : List String

/-- What a reading step gives, or the fault it meets. -/
abbrev Reading := Except FaultAt

/-- A fault at a place. -/
def faultAt {α : Type} (fault : Fault) (place : List Char) : Reading α := .error ⟨fault, place, []⟩

/-- The next character and those after it; the two characters that end a line are one. -/
def uncons : List Char → Option (Char × List Char)
  | [] => none
  | '\x0d' :: '\n' :: rest => some ('\n', rest)
  | c :: rest => some (c, rest)

/-- A token. -/
inductive Token where
  | blank
  | newline
  | comment
  | equals
  | period
  | comma
  | colon
  | plus
  | leftBrace
  | rightBrace
  | leftBracket
  | rightBracket
  /-- A run of letters, digits, underscores and hyphens. -/
  | bare (text : List Char)
  /-- A string, and whether it may go over several lines. -/
  | str (value : List Char) (multiline : Bool)
  deriving DecidableEq, Repr

/-- What messages call a token. -/
def Token.describe : Token → String
  | blank => "whitespace"
  | newline => "a newline"
  | comment => "a comment"
  | equals => "an equals"
  | period => "a period"
  | comma => "a comma"
  | colon => "a colon"
  | plus => "a plus"
  | leftBrace => "a left brace"
  | rightBrace => "a right brace"
  | leftBracket => "a left bracket"
  | rightBracket => "a right bracket"
  | bare _ => "an identifier"
  | str _ true => "a multiline string"
  | str _ false => "a string"

/-- Whether a character may stand between tokens of one line. -/
def isBlankChar (c : Char) : Bool := c == ' ' || c == '\t'

/-- Whether a character may stand in a bare key. -/
def isBareChar (c : Char) : Bool := c.isAlphanum || c == '-' || c == '_'

/-- Whether a character may stand in a comment. -/
def isCommentChar (c : Char) : Bool := c == '\t' || 0x20 ≤ c.toNat

/-- Whether a character may stand in a string. -/
def isStringChar (c : Char) : Bool := c == '\t' || (0x20 ≤ c.toNat && c.toNat ≠ 0x7f)

/-- Reads the hexadecimal digits of an escape that began at `start`: their value. -/
def hexDigits (start : List Char) : Nat → Nat → List Char → Reading (Nat × List Char)
  | 0, n, cs => .ok (n, cs)
  | count + 1, n, cs =>
    match uncons cs with
    | none => faultAt .unterminatedString start
    | some (c, rest) =>
      match Text.hexDigit? c with
      | some d => hexDigits start count (16 * n + d) rest
      | none => faultAt (.badHexEscape c) cs

/-- Skips blanks and line ends. -/
def skipLines : Nat → List Char → List Char
  | 0, cs => cs
  | fuel + 1, cs =>
    match uncons cs with
    | some (c, rest) => if isBlankChar c || c == '\n' then skipLines fuel rest else cs
    | none => cs

/-- The characters after a backslash that joins lines: blanks up to the end of the line and everything blank after it. The
backslash is followed by the character `c` at `place`. -/
def joinLines (c : Char) (place rest : List Char) : Reading (List Char) :=
  if c == '\n' then .ok (skipLines rest.length rest)
  else
    let rest := rest.dropWhile isBlankChar
    match uncons rest with
    | some ('\n', rest) => .ok (skipLines rest.length rest)
    | some _ => faultAt (.badEscape c) place
    | none => .ok rest

/-- Reads what follows a backslash in a string that began at `start`: the characters it stands for. -/
def escape (start : List Char) (multiline : Bool) (cs : List Char) : Reading (List Char × List Char) :=
  match uncons cs with
  | none => faultAt .unterminatedString start
  | some (c, rest) =>
    if c == '"' || c == '\\' then .ok ([c], rest)
    else if c == 'b' then .ok (['\x08'], rest)
    else if c == 'f' then .ok (['\x0c'], rest)
    else if c == 'n' then .ok (['\n'], rest)
    else if c == 'r' then .ok (['\x0d'], rest)
    else if c == 't' then .ok (['\t'], rest)
    else if c == 'u' || c == 'U' then do
      let (n, rest) ← hexDigits start (if c == 'u' then 4 else 8) 0 rest
      if h : n.isValidChar then return ([Char.ofNatAux n h], rest) else faultAt (.badEscapeValue n) cs
    else if multiline && (isBlankChar c || c == '\n') then do return ([], ← joinLines c cs rest)
    else faultAt (.badEscape c) cs

/-- How many of the given character the characters begin with, up to a number. -/
def countDelim (delim : Char) : Nat → List Char → Nat
  | 0, _ => 0
  | _, [] => 0
  | n + 1, c :: rest => if c == delim then countDelim delim n rest + 1 else 0

/-- Reads the characters of a string that began at `start`, up to its closing quotes. Only between double quotes are there
escapes. -/
def stringChars (start : List Char) (delim : Char) (multiline : Bool) : Nat → List Char → List Char → Reading (List Char × List Char)
  | 0, _, _ => faultAt .unterminatedString start
  | fuel + 1, acc, cs =>
    match uncons cs with
    | none => faultAt .unterminatedString start
    | some (c, rest) =>
      if c == '\n' then
        if multiline then stringChars start delim multiline fuel (c :: acc) rest else faultAt .newlineInString cs
      else if c == delim then
        if multiline then
          let quotes := countDelim delim 4 rest + 1
          if quotes < 3 then stringChars start delim multiline fuel (List.replicate quotes delim ++ acc) (cs.drop quotes)
          else .ok ((List.replicate (quotes - 3) delim ++ acc).reverse, cs.drop quotes)
        else .ok (acc.reverse, rest)
      else if c == '\\' && delim == '"' then do
        let (chars, rest) ← escape start multiline rest
        stringChars start delim multiline fuel (chars.reverse ++ acc) rest
      else if isStringChar c then stringChars start delim multiline fuel (c :: acc) rest
      else faultAt (.charInString c) cs

/-- Reads a string after its first quote. A line end right after three quotes is no part of the string. -/
def stringToken (start : List Char) (delim : Char) (cs : List Char) : Reading (Token × List Char) :=
  match countDelim delim 2 cs with
  | 0 => do
    let (value, rest) ← stringChars start delim false (cs.length + 1) [] cs
    return (.str value false, rest)
  | 1 => .ok (.str [] false, cs.tail)
  | _ => do
    let cs := cs.drop 2
    let cs := match uncons cs with
      | some ('\n', rest) => rest
      | _ => cs
    let (value, rest) ← stringChars start delim true (cs.length + 1) [] cs
    return (.str value true, rest)

/-- The token that a character alone is. -/
def Token.ofChar? (c : Char) : Option Token :=
  if c == '\n' then some newline
  else if c == '=' then some equals
  else if c == '.' then some period
  else if c == ',' then some comma
  else if c == ':' then some colon
  else if c == '+' then some plus
  else if c == '\x7b' then some leftBrace
  else if c == '\x7d' then some rightBrace
  else if c == '[' then some leftBracket
  else if c == ']' then some rightBracket
  else none

/-- The next token, if the text goes on, and the characters after it. -/
def token? (cs : List Char) : Reading (Option (Token × List Char)) :=
  match uncons cs with
  | none => .ok none
  | some (c, rest) =>
    match Token.ofChar? c with
    | some t => .ok (some (t, rest))
    | none =>
      if isBlankChar c then .ok (some (.blank, rest.dropWhile isBlankChar))
      else if c == '#' then .ok (some (.comment, rest.dropWhile isCommentChar))
      else if c == '\'' || c == '"' then (stringToken cs c rest).map some
      else if isBareChar c then .ok (some (.bare (c :: rest.takeWhile isBareChar), rest.dropWhile isBareChar))
      else faultAt (.unexpected c) cs

end CatalogSync.Toml
