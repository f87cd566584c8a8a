import CatalogSync.Json.Parser
import CatalogSync.Settings.Basic
import CatalogSync.Settings.Layers
import CatalogSync.Toml.Document

/-!
# Loading settings

Settings come from a file, if one is named, and from environment variables, which win over the file. What neither sets has its
default. The numbers are checked once everything is converted. Loading crashes where the sources cannot be layered.
-/

namespace CatalogSync

/-- The parts of a text between occurrences of a character. -/
def Text.partsAt (separator : Char) : List Char → List (List Char)
  | [] => [[]]
  | c :: cs =>
    if c = separator then [] :: partsAt separator cs
    else
      match partsAt separator cs with
      | [] => [[c]]
      | part :: parts => (c :: part) :: parts

/-- The formats of settings files. -/
inductive SettingsFormat where
  | toml | json
  deriving DecidableEq, Repr

namespace SettingsFormat

/-- The extension of files of a format. -/
def fileExtension : SettingsFormat → String
  | toml => "toml"
  | json => "json"

/-- Every format. -/
def all : List SettingsFormat := [toml, json]

/-- The format of a file by the extension of its name: what follows the last period, unless the name begins with that one. -/
def ofName? (name : String) : Option SettingsFormat :=
  let file := ((Text.partsAt '/' name.toList).getLast?).getD []
  match (Text.partsAt '.' file).reverse with
  | [] | [_] | [_, []] => none
  | ext :: _ => all.find? fun f => f.fileExtension.toList == ext

/-- Reads the settings that a text of a format holds. What is no table holds none. -/
def read (format : SettingsFormat) (file text : String) : Except SettingsFault (List (String × Setting)) :=
  match format with
  | json =>
    match Json.parse text with
    | .ok v => .ok (Setting.ofJson (some file) v).asTable.2
    | .error e => .error (.badFile e file)
  | toml =>
    match Toml.parse text with
    | .ok v => .ok (Setting.ofToml (some file) v).asTable.2
    | .error e => .error (.badFile e file)

end SettingsFormat

/-- What settings are loaded from: files by their names, and environment variables. -/
structure Surroundings where
  files : List (String × String)
  environment : List (String × String)

namespace Surroundings

/-- The parts of a path between slashes, without those that lead nowhere. -/
def pathParts (path : String) : List String :=
  ((Text.partsAt '/' path.toList).filter fun p => p ≠ [] && p ≠ ['.']).map String.ofList

/-- The file at a path, with the name it is known by. -/
def fileAt? (s : Surroundings) (path : String) : Option (String × String) :=
  (s.files.find? fun f => pathParts f.1 == pathParts path).map fun f => ("/".intercalate (pathParts path), f.2)

/-- The settings file at a path, or at the path with an extension added. -/
def settingsFile? (s : Surroundings) (path : String) : Option (SettingsFormat × String × String) :=
  match s.fileAt? path with
  | some (name, text) => (SettingsFormat.ofName? name).map fun format => (format, name, text)
  | none =>
    SettingsFormat.all.findSome? fun format =>
      (s.fileAt? (path ++ "." ++ format.fileExtension)).map fun (name, text) => (format, name, text)

/-- What the names of variables with settings begin with, in small letters. -/
def variableStart : String := "aas_sync__"

/-- Characters with a period for each two underscores. -/
def withPeriods : List Char → List Char
  | '_' :: '_' :: cs => '.' :: withPeriods cs
  | c :: cs => c :: withPeriods cs
  | [] => []

/-- The key that a variable sets, if it is one with a setting: its name in small letters, with a period for each two underscores. -/
def key? (name : String) : Option String :=
  let small := (Text.lowercase name).toList
  if variableStart.toList.isPrefixOf small then some (String.ofList (withPeriods (small.drop variableStart.length))) else none

/-- The settings that variables hold. -/
def variableSettings (s : Surroundings) : List (String × Setting) :=
  s.environment.filterMap fun (name, value) =>
    (key? name).map fun key => (key, .scalar (some "the environment") (.text value))

end Surroundings

namespace Endpoint

/-- The URL of an endpoint from a setting. -/
def urlOfSetting (v : Setting) : Except SettingsFault AccessUrl := do
  (AccessUrl.decode (.str (← v.toText))).mapError .misfit

/-- The authentication of an endpoint from a setting. -/
def authOfSetting (v : Setting) : Except SettingsFault AuthSettings := (AuthSettings.decode v.toJson).mapError .misfit

/-- An endpoint from a setting: a table with the fields `url` and, perhaps, `auth`, or an array of the two. -/
def ofSetting (v : Setting) : Except SettingsFault Endpoint :=
  match v with
  | .table _ fields => do
    let auth ← match fields.lookup "auth" with
      | some a => authOfSetting a
      | none => pure .none
    match fields.lookup "url" with
    | some u => return ⟨← (urlOfSetting u).mapError (.below "url"), auth⟩
    | none => throw (.misfit (.missingField "url"))
  | .array _ [] => .error (.misfit (.wrongLength 0 "struct EndpointConfig with 2 elements"))
  | .array _ (u :: rest) => do
    let url ← (urlOfSetting u).mapError (.below "[0]")
    match rest with
    | [] => return ⟨url, .none⟩
    | a :: _ => return ⟨url, ← authOfSetting a⟩
  | v => .error (.misfit (.wrongType v.toJson "struct EndpointConfig"))

/-- Endpoints from settings, of which the first has the given index. -/
def ofSettings (first : Nat) : List Setting → Except SettingsFault (List Endpoint)
  | [] => .ok []
  | v :: rest => do
    let e ← (ofSetting v).mapError (.below ("[" ++ toString first ++ "]"))
    return e :: (← ofSettings (first + 1) rest)

/-- A list of endpoints from a setting. -/
def listOfSetting (v : Setting) : Except SettingsFault (List Endpoint) :=
  match v with
  | .array _ items => ofSettings 0 items
  | v => .error (.misfit (.wrongType v.toJson "a sequence"))

end Endpoint

namespace Settings

/-- Sets what the field of a name says. Names of no setting say nothing. -/
def setFrom (s : Settings) (name : String) (v : Setting) : Except SettingsFault Settings :=
  Except.mapError (.below name) <|
    if name == "sync_period_secs" then return { s with syncPeriodSecs := ← v.toWord }
    else if name == "tick_timeout_secs" then return { s with tickTimeoutSecs := ← v.toWord }
    else if name == "only_submodels" then return { s with onlySubmodels := ← v.toSwitch }
    else if name == "max_concurrent_ticks" then return { s with maxConcurrentTicks := ← v.toWord }
    else if name == "services" then return { s with services := ← Endpoint.listOfSetting v }
    else if name == "registries" then return { s with registries := ← Endpoint.listOfSetting v }
    else return s

/-- The settings that the fields of a table say, the rest being as given. -/
def setAll (s : Settings) : List (String × Setting) → Except SettingsFault Settings
  | [] => .ok s
  | (name, v) :: rest => do setAll (← s.setFrom name v) rest

/-- The sources of settings: the file at the path, if one is given, and then the environment. -/
def sources (path : Option String) (s : Surroundings) : Except SettingsFault (List (List (String × Setting))) :=
  match path with
  | none => .ok [s.variableSettings]
  | some path =>
    match s.settingsFile? path with
    | none => .error (.noFile path)
    | some (format, name, text) => do return [← format.read name text, s.variableSettings]

/-- The settings that the sources hold, before the numbers are checked, or nothing if the sources cannot be layered. -/
def ofSources (sources : List (List (String × Setting))) : Option (Except SettingsFault Settings) :=
  (Setting.layered sources).map fun layers => default.setAll layers.asTable.2

/-- Settings that were converted, if their numbers pass the check. -/
def checked : Except SettingsFault Settings → Except SyncError Settings
  | .error fault => .error (.settings fault.message)
  | .ok settings => do
    settings.validate
    return settings

/-- Loads settings from the file at a path, if one is given, and from the environment. Nothing comes of it if the sources cannot be
layered: this is a crash. -/
def load (path : Option String) (s : Surroundings) : Option (Except SyncError Settings) :=
  match sources path s with
  | .error fault => some (.error (.settings fault.message))
  | .ok sources => (ofSources sources).map checked

end Settings

end CatalogSync
