import CatalogSync.Text.Composition
import CatalogSync.Text.Direction
import CatalogSync.Url.Mapping
import CatalogSync.Url.Punycode
import CatalogSync.Url.Ipv4

/-!
# Domain names

A domain name is brought to ASCII: its characters are mapped and composed, each label beyond ASCII is checked and written in
Punycode, and a label that is in Punycode already has to be what its decoded form would be written as. Labels may be empty and
of any length.
-/

namespace CatalogSync.Url

open CatalogSync.Text

/-- ASCII characters that may not be in a domain name. -/
def isForbiddenInDomain (c : Char) : Bool :=
  c.toNat ≤ 0x20 || c.toNat == 0x7f || ['%', '#', '/', ':', '<', '>', '?', '@', '[', '\\', ']', '^', '|'].contains c

/-- The characters with their mapping applied, none when one is not allowed. -/
def mapChars? (cs : List Char) : Option (List Char) :=
  (cs.mapM fun c => match fate c with
    | .kept => some [c]
    | .dropped => some []
    | .replaced chars => some chars
    | .disallowed => none).map List.flatten

/-- Whether a label begins like one in Punycode. -/
def isPunycodeLabel (label : List Char) : Bool := ['x', 'n', '-', '-'].isPrefixOf label

/-- Whether letters on both sides join over a character that prevents or asks for joining. -/
def joinsAround (before after : List Char) : Bool :=
  let left := (before.reverse.dropWhile joinsThrough.contains).head?
  let right := (after.dropWhile joinsThrough.contains).head?
  left.any (fun c => joinsBoth.contains c || joinsNext.contains c) &&
    right.any fun c => joinsBoth.contains c || joinsPrevious.contains c

/-- Whether the two joiners of a label stand only after a virama, or the first of them between letters that join. -/
def joinersFit (before : List Char) : List Char → Bool
  | [] => true
  | c :: rest =>
    let afterVirama := before.getLast?.any fun b => combiningClass b == 9
    (if c == '\u200c' then afterVirama || joinsAround before rest
      else if c == '\u200d' then afterVirama
      else true) && joinersFit (before ++ [c]) rest

/-- Whether a name has a character that runs to the left; no ASCII character does. -/
def isBidirectional (cs : List Char) : Bool :=
  cs.any fun c => 0x80 ≤ c.toNat && ["R", "AL", "AN"].contains (directionClass c)

/-- Whether the directions of a label's characters go together. -/
def directionsFit (label : List Char) : Bool :=
  let classes := label.map directionClass
  let last := (classes.reverse.dropWhile (· == "NSM")).headD "NSM"
  match classes with
  | [] => true
  | first :: _ =>
    if first == "R" || first == "AL" then
      classes.all (["R", "AL", "AN", "EN", "ES", "CS", "ET", "ON", "BN", "NSM"].contains ·) &&
        ["R", "AL", "EN", "AN"].contains last && !(classes.contains "EN" && classes.contains "AN")
    else if first == "L" then
      classes.all (["L", "EN", "ES", "CS", "ET", "ON", "BN", "NSM"].contains ·) && ["L", "EN"].contains last
    else false

/-- Whether a label beyond ASCII may stand in a domain name. -/
def labelFits (label : List Char) : Bool :=
  label.all (fun c => match fate c with
    | .kept => true
    | _ => false) &&
    !label.head?.any marks.contains && composed label == label && joinersFit [] label

/-- A label as it was meant: a Punycode label decoded, others as they are. -/
def meantLabel? (label : List Char) : Option (List Char) :=
  if isPunycodeLabel label then
    if label.any fun c => 0x80 ≤ c.toNat then none
    else
      match Punycode.decode? (label.drop 4) with
      | some decoded => if decoded.all (fun c => c.toNat < 0x80) then none else some decoded
      | none => none
  else some label

/-- A label in ASCII. -/
def asciiLabel (label : List Char) : List Char :=
  if label.all (fun c => c.toNat < 0x80) then label else 'x' :: 'n' :: '-' :: '-' :: Punycode.encode label

/-- The ASCII form of a domain name, none when it has none. -/
def asciiDomain? (cs : List Char) : Option (List Char) := do
  let mapped ← mapChars? cs
  let meant ← (labels (composed mapped)).mapM meantLabel?
  let ascii := (meant.map asciiLabel).intersperse ['.'] |>.flatten
  let whole := meant.flatten
  if meant.all (fun l => l.all (fun c => c.toNat < 0x80) || labelFits l) &&
      (!isBidirectional whole || meant.all directionsFit) && !ascii.any isForbiddenInDomain then
    some ascii
  else none

end CatalogSync.Url
