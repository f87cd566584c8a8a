import CatalogSync.Url.Ipv6

/-!
# URLs

A URL in its parts, each already in its written form, and the text it is written as.
-/

namespace CatalogSync

/-- A host: a name, or an address of either version. -/
inductive Url.Host where
  | domain (name : String)
  | ipv4 (address : Nat)
  | ipv6 (pieces : List Nat)
  deriving DecidableEq, Repr

/-- A path: the segments after each slash, or a text without structure. -/
inductive Url.Path where
  | segments (parts : List String)
  | plain (text : String)
  deriving DecidableEq, Repr

/-- The parts of a URL. -/
@[ext] structure Url where
  scheme : String
  username : String
  password : Option String
  host : Option Url.Host
  port : Option Nat
  path : Url.Path
  query : Option String
  fragment : Option String
  deriving DecidableEq, Repr

namespace Url

/-- The text of a host. -/
def Host.render : Host → String
  | .domain name => name
  | .ipv4 address => renderIpv4 address
  | .ipv6 pieces => "[" ++ renderIpv6 pieces ++ "]"

/-- The text of a path. -/
def Path.render : Path → String
  | .segments parts => String.join (parts.map ("/" ++ ·))
  | .plain text => text

/-- The port a scheme stands for, if it has one. -/
def defaultPort? (scheme : String) : Option Nat :=
  [("http", 80), ("https", 443), ("ws", 80), ("wss", 443), ("ftp", 21)].lookup scheme

/-- Whether URLs of a scheme always have a host and a path. -/
def isSpecial (scheme : String) : Bool := scheme == "file" || (defaultPort? scheme).isSome

/-- The user name and the password before a host. -/
def userInfo (u : Url) : String :=
  match u.password with
  | some p => u.username ++ ":" ++ p ++ "@"
  | none => if u.username.isEmpty then "" else u.username ++ "@"

/-- What stands between the scheme and the path. Without a host, a path that would be taken for one is set apart by `/.`. -/
def authority (u : Url) : String :=
  match u.host with
  | some host =>
    "//" ++ u.userInfo ++ host.render ++ (match u.port with
      | some port => ":" ++ toString port
      | none => "")
  | none =>
    if u.scheme == "file" then "//"
    else match u.path with
      | .segments ("" :: _ :: _) => "/."
      | _ => ""

/-- The text of a URL. -/
def render (u : Url) : String :=
  u.scheme ++ ":" ++ u.authority ++ u.path.render ++
    (match u.query with
      | some q => "?" ++ q
      | none => "") ++
    (match u.fragment with
      | some f => "#" ++ f
      | none => "")

end Url

end CatalogSync
