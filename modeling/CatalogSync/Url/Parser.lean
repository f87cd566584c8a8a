import CatalogSync.Url.Basic
import CatalogSync.Url.Domain
import CatalogSync.Url.Percent

/-!
# Reading URLs

A text is read as a URL from left to right: scheme, user and password, host, port, path, query, fragment. Backslashes count as
slashes where the scheme is special, segments of dots are resolved, hosts are brought to their written form, and characters
that a part may not hold are encoded.
-/

namespace CatalogSync.Url

/-- Why a text is not a URL. -/
inductive ParseError where
  | noBase | emptyHost | invalidPort | invalidIpv4 | invalidIpv6 | invalidDomain | invalidDomainCharacter
  deriving DecidableEq, Repr

/-- The wording of an error. -/
def ParseError.message : ParseError → String
  | .noBase => "relative URL without a base"
  | .emptyHost => "empty host"
  | .invalidPort => "invalid port number"
  | .invalidIpv4 => "invalid IPv4 address"
  | .invalidIpv6 => "invalid IPv6 address"
  | .invalidDomain => "invalid international domain name"
  | .invalidDomainCharacter => "invalid domain character"

/-- The characters that count: without controls and blanks at the ends, and without tabs and line breaks anywhere. -/
def significant (cs : List Char) : List Char :=
  let drop (cs : List Char) := cs.dropWhile fun c => c.toNat ≤ 0x20
  (drop (drop cs).reverse).reverse.filter fun c => c != '\t' && c != '\n' && c != '\x0d'

/-- Whether a character may stand in a scheme after its first letter. -/
def isSchemeChar (c : Char) : Bool := c.isAlphanum || c == '+' || c == '-' || c == '.'

/-- The scheme in small letters and what follows its colon. -/
def splitScheme? (cs : List Char) : Option (String × List Char) :=
  match cs.dropWhile isSchemeChar with
  | ':' :: rest =>
    let name := cs.takeWhile isSchemeChar
    if name.head?.any Char.isAlpha then some (String.ofList (name.map Char.toLower), rest) else none
  | _ => none

/-- Whether a character separates path segments. -/
def isSlash (special : Bool) (c : Char) : Bool := c == '/' || (special && c == '\\')

/-- Whether a character ends the part with user, host and port. -/
def endsAuthority (special : Bool) (c : Char) : Bool := isSlash special c || c == '?' || c == '#'

/-- The characters before and after the last `@`, if there is one. -/
def splitLastAt? (cs : List Char) : Option (List Char × List Char) :=
  if cs.contains '@' then
    let after := (cs.reverse.takeWhile (· != '@')).reverse
    some (cs.take (cs.length - after.length - 1), after)
  else none

/-- The encoded user name and password of a text; an empty password is none. -/
def readUserInfo (cs : List Char) : String × Option String :=
  let user := cs.takeWhile (· != ':')
  let password := (cs.dropWhile (· != ':')).drop 1
  let encoded (cs : List Char) := String.ofList (encode inUserInfoSet cs)
  (encoded user, if password.isEmpty then none else some (encoded password))

/-- Splits at the first colon outside brackets. -/
def splitPort (inside : Bool) : List Char → List Char × List Char
  | [] => ([], [])
  | c :: rest =>
    if c == ':' && !inside then ([], c :: rest)
    else
      let (host, rest) := splitPort (if c == '[' then true else if c == ']' then false else inside) rest
      (c :: host, rest)

/-- Characters that may not be in a host whose scheme is not special. -/
def isForbiddenInHost (c : Char) : Bool :=
  ['\x00', '\t', '\n', '\x0d', ' ', '#', '/', ':', '<', '>', '?', '@', '[', '\\', ']', '^', '|'].contains c

/-- Reads a host. -/
def readHost (special : Bool) (cs : List Char) : Except ParseError Host :=
  match cs with
  | '[' :: rest =>
    if rest.getLast? == some ']' then
      match parseIpv6? rest.dropLast with
      | some pieces => .ok (.ipv6 pieces)
      | none => .error .invalidIpv6
    else .error .invalidIpv6
  | _ =>
    if special then
      match (textOfBytes? (decodeBytes cs)).bind asciiDomain? with
      | none => .error .invalidDomain
      | some [] => .error .emptyHost
      | some name =>
        if endsInNumber name then
          match parseIpv4? name with
          | some address => .ok (.ipv4 address)
          | none => .error .invalidIpv4
        else .ok (.domain (String.ofList name))
    else if cs.any isForbiddenInHost then .error .invalidDomainCharacter
    else .ok (.domain (String.ofList (encode isControl cs)))

/-- Reads a port after its colon; the scheme's own port is none. -/
def readPort (scheme : String) (cs : List Char) : Except ParseError (Option Nat) :=
  let digits := cs.takeWhile Char.isDigit
  let port := digits.foldl (fun n c => min (10 * n + (Text.hexDigit? c).getD 0) 65536) 0
  if port = 65536 ∨ digits.length < cs.length then .error .invalidPort
  else .ok (if digits.isEmpty ∨ some port = defaultPort? scheme then none else some port)

/-- Whether a segment stands for the one it is in. -/
def isSingleDot (segment : List Char) : Bool :=
  [".", "%2e"].contains (String.ofList (segment.map Char.toLower))

/-- Whether a segment stands for the one above. -/
def isDoubleDot (segment : List Char) : Bool :=
  ["..", ".%2e", "%2e.", "%2e%2e"].contains (String.ofList (segment.map Char.toLower))

/-- Whether a segment is a letter and a colon or a bar, which names a drive in file paths. -/
def isDriveLetter : List Char → Bool
  | [c, d] => c.isAlpha && (d == ':' || d == '|')
  | _ => false

/-- The segments without the last, unless that is a drive of a file path. -/
def shorten (file : Bool) (segments : List (List Char)) : List (List Char) :=
  match segments.getLast? with
  | some last => if file && isDriveLetter last then segments else segments.dropLast
  | none => []

/-- The segments with one more, which may be dots. `more` says whether a slash follows it. -/
def addSegment (file : Bool) (segments : List (List Char)) (segment : List Char) (more : Bool) : List (List Char) :=
  if isDoubleDot segment then
    let above := shorten file segments
    if more then above else above ++ [[]]
  else if isSingleDot segment then if more then segments else segments ++ [[]]
  else
    match file && segments.isEmpty && isDriveLetter segment, segment with
    | true, c :: _ => segments ++ [[c, ':']]
    | _, _ => segments ++ [segment]

/-- Reads segments up to a query or a fragment. `segment` is the one being read. In file paths a drive's letter and colon are a
segment whatever follows. -/
def readSegments (special file : Bool) (segments : List (List Char)) (segment : List Char) :
    List Char → List (List Char) × List Char
  | [] => (addSegment file segments segment false, [])
  | c :: rest =>
    if isSlash special c then readSegments special file (addSegment file segments segment true) [] rest
    else if c == '?' || c == '#' then (addSegment file segments segment false, c :: rest)
    else if file && segments.isEmpty && isDriveLetter segment then
      readSegments special file [segment] (encodeChar inPathSet c) rest
    else readSegments special file segments (segment ++ encodeChar inPathSet c) rest

/-- The path of a file without its leading empty segments. -/
def trimFileSegments (segments : List (List Char)) : List (List Char) :=
  match segments.dropWhile List.isEmpty with
  | [] => [[]]
  | kept => kept

/-- Reads a path of segments, whose first slash may be left out where the scheme is special. -/
def readPath (scheme : String) (cs : List Char) : Path × List Char :=
  let special := isSpecial scheme
  let file := scheme == "file"
  match cs with
  | [] => (.segments (if special then [""] else []), [])
  | c :: rest =>
    if !special && (c == '?' || c == '#') then (.segments [], cs)
    else
      let (segments, rest) := readSegments special file [] [] (if isSlash special c then rest else cs)
      (.segments ((if file then trimFileSegments segments else segments).map String.ofList), rest)

/-- Reads a path without structure. -/
def readPlainPath (cs : List Char) : Path × List Char :=
  let (text, rest) := cs.span fun c => c != '?' && c != '#'
  (.plain (String.ofList (encode isControl text)), rest)

/-- Reads the query and the fragment. -/
def readQueryAndFragment (special : Bool) (cs : List Char) : Option String × Option String :=
  let (query, rest) := match cs with
    | '?' :: rest =>
      let (q, rest) := rest.span (· != '#')
      (some (String.ofList (encode (inQuerySet special) q)), rest)
    | _ => (none, cs)
  match rest with
  | '#' :: f => (query, some (String.ofList (encode inFragmentSet f)))
  | _ => (query, none)

/-- A URL whose parts up to the path are read. -/
def finish (scheme username : String) (password : Option String) (host : Option Host) (port : Option Nat)
    (path : Path × List Char) : Url :=
  let (query, fragment) := readQueryAndFragment (isSpecial scheme) path.2
  ⟨scheme, username, password, host, port, path.1, query, fragment⟩

/-- Reads what follows two slashes: user, host, port and path. -/
def readAuthority (scheme : String) (cs : List Char) : Except ParseError Url := do
  let special := isSpecial scheme
  let (front, rest) := cs.span fun c => !endsAuthority special c
  let (user, place) := match splitLastAt? front with
    | some (user, place) => (some user, place)
    | none => (none, front)
  if user == some [] && place.isEmpty && !rest.isEmpty then throw .emptyHost
  let (username, password) := readUserInfo (user.getD [])
  let (hostText, portText) := splitPort false place
  if hostText.isEmpty then
    if special || !portText.isEmpty || !username.isEmpty || password.isSome then throw .emptyHost
  let host ← if hostText.isEmpty then pure (.domain "") else readHost special hostText
  let port ← if portText.isEmpty then pure none else readPort scheme (portText.drop 1)
  return finish scheme username password (some host) port (readPath scheme rest)

/-- Whether the first segment of a path is a drive. -/
def startsWithDrive : Path → Bool
  | .segments (s :: _) => isDriveLetter s.toList && s.endsWith ":"
  | _ => false

/-- Reads the host of a file, which is none when it is missing or the machine itself, and its path. A drive is no host. -/
def readFileHost (cs : List Char) : Except ParseError Url := do
  let (text, rest) := cs.span fun c => !endsAuthority true c
  if isDriveLetter text then return finish "file" "" none none none (readPath "file" cs)
  let host ← if text.isEmpty then pure none else (readHost true text).map some
  let path := readPath "file" rest
  let onMachine := host == some (.domain "localhost") || startsWithDrive path.1
  return finish "file" "" none (if onMachine then none else host) none path

/-- Reads what follows the scheme. -/
def readAfterScheme (scheme : String) (cs : List Char) : Except ParseError Url :=
  if scheme == "file" then
    match cs with
    | a :: b :: rest =>
      if isSlash true a && isSlash true b then readFileHost rest
      else .ok (finish scheme "" none none none (readPath scheme cs))
    | _ => .ok (finish scheme "" none none none (readPath scheme cs))
  else if isSpecial scheme then readAuthority scheme (cs.dropWhile (isSlash true))
  else
    match cs with
    | '/' :: '/' :: rest => readAuthority scheme rest
    | '/' :: _ => .ok (finish scheme "" none none none (readPath scheme cs))
    | _ => .ok (finish scheme "" none none none (readPlainPath cs))

/-- Reads a text as a URL that stands on its own. -/
def parse (s : String) : Except ParseError Url :=
  match splitScheme? (significant s.toList) with
  | some (scheme, rest) => readAfterScheme scheme rest
  | none => .error .noBase

end CatalogSync.Url
