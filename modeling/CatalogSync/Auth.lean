import CatalogSync.SyncError
import CatalogSync.Text.Base64

/-!
# Authentication of requests

Every service and every watched registry has a method of authentication, which gives the header to send with a request. Secret
values show in headers only: the text that describes a method leaves them out. `AuthSettings` is a method as written in
settings, where parts may be missing.
-/

namespace CatalogSync

/-- A value that is never shown. -/
structure Secret where
  reveal : String
  deriving DecidableEq

/-- Secret values by alias. -/
structure SecretStore where
  entries : List (String × Secret)

namespace SecretStore

/-- A store without secrets. -/
def empty : SecretStore := ⟨[]⟩

/-- The value of an alias. -/
def resolve (s : SecretStore) (name : String) : Option String := (s.entries.lookup name).map Secret.reveal

/-- The store without an alias. -/
def remove (s : SecretStore) (name : String) : SecretStore := ⟨s.entries.filter fun e => e.1 != name⟩

/-- The store with a value for an alias, in place of an earlier one. -/
def insert (s : SecretStore) (name value : String) : SecretStore := ⟨(s.remove name).entries ++ [(name, ⟨value⟩)]⟩

/-- The store with the given values. -/
def ofList (entries : List (String × String)) : SecretStore :=
  entries.foldl (fun s (name, value) => s.insert name value) empty

end SecretStore

/-- How requests are authenticated. -/
inductive AuthMethod where
  /-- Nothing is sent. -/
  | none
  /-- A user name and a password. -/
  | basic (username : String) (password : Secret)
  /-- A fixed key under a header of choice. -/
  | apiKey (header : String) (value : Secret)
  /-- A key looked up in the secret store at each request. -/
  | vault (name : String)
  deriving DecidableEq, Inhabited

/-- Headers of a request, by name. -/
abbrev Headers := List (String × String)

/-- What stands for a secret value in descriptions. -/
def Secret.describe (_ : Secret) : String := "Secret([REDACTED alloc::string::String])"

namespace AuthMethod

/-- The header that carries keys from the secret store. -/
def vaultHeader : String := "x-api-key"

/-- A method with a user name and a password; either may be empty. -/
def ofCredentials (username password : String) : AuthMethod := .basic username ⟨password⟩

/-- A method with a fixed key, whose header must not be blank. -/
def ofKey (header value : String) : Except SyncError AuthMethod :=
  if Text.isBlankText header then .error (.configuration "api-key authentication requires a header name")
  else .ok (.apiKey header ⟨value⟩)

/-- The short name of a method. -/
def scheme : AuthMethod → String
  | .none => "none"
  | .basic _ _ => "basic"
  | .apiKey _ _ => "api-key"
  | .vault _ => "vault"

/-- The token of a user name and a password: both with a colon between them, as base64. -/
def basicToken (username password : String) : String :=
  String.ofList (Text.Base64.encode (username ++ ":" ++ password).toUTF8.data.toList)

/-- The header to send with a request, if any, given how aliases are resolved. -/
def header {m : Type → Type} [Monad m] (resolve : String → m (Option String)) :
    AuthMethod → m (Except SyncError (Option (String × String)))
  | .none => return .ok Option.none
  | .basic username password => return .ok (some ("Authorization", "Basic " ++ basicToken username password.reveal))
  | .apiKey name value => return .ok (some (name, value.reveal))
  | .vault name => do
    match ← resolve name with
    | some value => return .ok (some (vaultHeader, value))
    | Option.none => return .error (.secretNotFound name)

/-- The headers to send with a request. -/
def headers {m : Type → Type} [Monad m] (resolve : String → m (Option String)) (a : AuthMethod) :
    m (Except SyncError Headers) := return (← a.header resolve).map Option.toList

/-- The text that describes a method, without its secrets. -/
def describe : AuthMethod → String
  | .none => "None"
  | .basic username password =>
    "Basic \x7b username: " ++ Text.quoted username ++ ", password: " ++ password.describe ++ " \x7d"
  | .apiKey name value => "ApiKey \x7b header: " ++ Text.quoted name ++ ", value: " ++ value.describe ++ " \x7d"
  | .vault name => "Vault \x7b alias: " ++ Text.quoted name ++ ", .. \x7d"

end AuthMethod

/-- A method as written in settings. -/
inductive AuthSettings where
  | none
  | basic (username : Option String) (password : Option Secret)
  | apiKey (header : String) (value : Secret)
  | vault (name : String)
  deriving DecidableEq, Inhabited

namespace AuthSettings

/-- The method that settings ask for. Keys from a secret store need one. -/
def toMethod (hasStore : Bool) : AuthSettings → Except SyncError AuthMethod
  | .none => .ok .none
  | .basic Option.none _ => .error (.configuration "basic authentication requires a username")
  | .basic (some _) Option.none => .error (.configuration "basic authentication requires a password")
  | .basic (some username) (some password) => .ok (.ofCredentials username password.reveal)
  | .apiKey header value => AuthMethod.ofKey header value.reveal
  | .vault name =>
    if hasStore then .ok (.vault name)
    else .error (.configuration ("vault authentication for alias '" ++ name ++ "' needs a secret store"))

/-- A part that may be missing, in a description. -/
def describePart : Option String → String
  | some s => "Some(" ++ s ++ ")"
  | Option.none => "None"

/-- The text that describes the settings of a method, without its secrets. -/
def describe : AuthSettings → String
  | .none => "None"
  | .basic username password =>
    "Basic \x7b username: " ++ describePart (username.map Text.quoted) ++ ", password: " ++
      describePart (password.map Secret.describe) ++ " \x7d"
  | .apiKey header value =>
    "ApiKey \x7b header: " ++ Text.quoted header ++ ", value: " ++ value.describe ++ " \x7d"
  | .vault name => "Vault \x7b alias: " ++ Text.quoted name ++ " \x7d"

/-- The names of the methods. -/
def names : List String := ["none", "basic", "api-key", "vault"]

/-- Reads the name of a method. -/
def decodeName : Decoder String
  | .str s => if names.contains s then .ok s else .error (.unknownVariant s names)
  | v => .error (.wrongType v "variant identifier")

/-- A secret string. -/
def decodeSecret : Decoder Secret := fun v => return ⟨← Decoder.string v⟩

/-- Parts of a method seen while one is read. -/
structure Parts where
  first : Option String
  second : Option Secret

/-- The fields of a method by name; the name and the secret of a method may be nothing where `nullable` holds. -/
def fields (nullable : Bool) (first : String) (second : Option String) : List (Decoder.Field Parts) :=
  ⟨first, false, fun v p =>
    if nullable then do return { p with first := ← Decoder.optional Decoder.string v }
    else do return { p with first := some (← Decoder.string v) }⟩ ::
  second.toList.map fun name => ⟨name, false, fun v p =>
    if nullable then do return { p with second := ← Decoder.optional decodeSecret v }
    else do return { p with second := some (← decodeSecret v) }⟩

/-- Reads the fields of a method, from an object or from an array of just these fields. -/
def readParts (variant : String) (fs : List (Decoder.Field Parts)) : Decoder Parts
  | .obj vs => Decoder.readFields fs ⟨Option.none, Option.none⟩ vs
  | .arr vs => do
    let expected := "struct variant AuthConfig::" ++ variant ++ " with " ++ Decoder.elements fs.length
    let (p, rest) ← Decoder.readItems expected 0 ⟨Option.none, Option.none⟩ fs vs
    if rest.isEmpty then return p else throw (.wrongLength vs.length (Decoder.elements fs.length ++ " in sequence"))
  | v => .error (.wrongType v ("struct variant AuthConfig::" ++ variant))

/-- Reads the method of the given name from its fields. -/
def decodeFields (name : String) : Decoder AuthSettings := fun v => do
  if name == "basic" then
    let p ← readParts "Basic" (fields true "username" (some "password")) v
    return .basic p.first p.second
  else if name == "api-key" then
    let p ← readParts "ApiKey" (fields false "header" (some "value")) v
    return .apiKey (← Decoder.need "header" p.first) (← Decoder.need "value" p.second)
  else if name == "vault" then
    let p ← readParts "Vault" (fields false "alias" Option.none) v
    return .vault (← Decoder.need "alias" p.first)
  else
    match v with
    | .arr (x :: xs) => throw (.wrongLength (x :: xs).length "0 elements in sequence")
    | _ => return .none

/-- Reads the settings of a method: an object whose field `type` names it, or an array that begins with the name. -/
def decode : Decoder AuthSettings
  | .obj vs => do
    match vs.lookup "type" with
    | some tag => decodeFields (← decodeName tag) (.obj (vs.filter fun f => f.1 != "type"))
    | Option.none => throw (.missingField "type")
  | .arr [] => .error (.missingField "type")
  | .arr (tag :: vs) => do decodeFields (← decodeName tag) (.arr vs)
  | v => .error (.wrongType v "internally tagged enum AuthConfig")

end AuthSettings

end CatalogSync
