import ChatCommand.Settings.Check
import ChatCommand.Settings.Decode
import ChatCommand.Settings.Disk
import ChatCommand.Settings.Encode
import ChatCommand.Settings.Environment
import ChatCommand.Settings.Profile
import ChatCommand.Settings.Toml.Document
import ChatCommand.Settings.Yaml.Document

/-!
# Loading settings

Settings come in layers: the defaults, files, the environment and what the program itself sets, a
later layer winning over an earlier one. Files are searched for in a list of directories, one format
after the other; a file for the profile counts less than the file that it goes with, and the search
of a format ends with the first file that is not for a profile.
-/

namespace ChatCommand.Settings

/-- What the program runs in. -/
structure System where
  disk : Disk
  environment : Environment
  /-- The directory for the settings of the user. -/
  userDirectory : Option String

/-- The formats of settings files. -/
inductive FileFormat where
  | toml
  | yaml
deriving DecidableEq, Repr

namespace FileFormat

/-- The name of a format. -/
def name : FileFormat → String
  | toml => "TOML"
  | yaml => "YAML"

/-- The format that the ending of a file name stands for. -/
def ofEnding? : String → Option FileFormat
  | "toml" => some toml
  | "yaml" | "yml" => some yaml
  | _ => none

/-- The names of settings files, each with its ending, in the order in which they are tried. -/
def baseNames : FileFormat → List (String × String)
  | toml => [("alloy", "toml"), ("config", "toml")]
  | yaml => [("alloy", "yaml"), ("alloy", "yml"), ("config", "yaml"), ("config", "yml")]

/-- The data that a document of the format holds, or what is wrong with it. -/
def parse : FileFormat → String → Except String Data
  | toml, text => (Toml.parse text).elim (.error "TOML parse error") .ok
  | yaml, text => Yaml.parse text

end FileFormat

/-! ## The search for files -/

/-- A pair of files that may exist: one for all profiles, and one for the current profile. -/
structure Candidate where
  base : String
  variant : String
deriving DecidableEq, Repr

/-- The candidates of a format, in the order of the search. -/
def candidates (f : FileFormat) (profile : Profile) (paths : List String) : List Candidate :=
  paths.flatMap fun path =>
    f.baseNames.map fun (stem, ending) =>
      { base := Path.join path (stem ++ "." ++ ending)
        variant := Path.join path (stem ++ "." ++ profile.name ++ "." ++ ending) }

/-- A file that takes part. -/
inductive Choice where
  | base (path : String)
  | variant (path : String)
deriving DecidableEq, Repr

/-- The path of the file. -/
def Choice.path : Choice → String
  | base path | variant path => path

/-- The files that take part, in order: variants up to the first base file, and that. -/
def chosen (there : String → Bool) : List Candidate → List Choice
  | [] => []
  | c :: cs =>
    let variant := if there c.variant then [Choice.variant c.variant] else []
    if there c.base then variant ++ [.base c.base] else variant ++ chosen there cs

/-- What is reported about a file that takes part. -/
def Choice.event : Choice → Log.Event
  | base path =>
    { level := .info
      target := "alloy_runtime::config::loader"
      message := "Loading configuration file"
      fields := [("path", .shown path)] }
  | variant path =>
    { level := .debug
      target := "alloy_runtime::config::loader"
      message := "Loading profile-specific config"
      fields := [("path", .shown path)] }

/-! ## Layers -/

/-- A layer of settings: where it comes from, and its content or what is wrong with it. -/
structure Layer where
  origin : Origin
  content : Except String Node

/-- The layer of a file. What is no file contributes nothing. -/
def fileLayer (d : Disk) (f : FileFormat) (path : String) : Layer :=
  match d.read? path with
  | some (path, content) =>
    let origin := Origin.file (d.relative path) f.name
    { origin, content := (f.parse content).map (·.toNode origin) }
  | none => { origin := .program, content := .ok (.table .program []) }

/-- All layers merged, the first one lowest, or all faults, the latest first. -/
def mergeLayers (layers : List Layer) : Except Unreadable Node :=
  let faults := layers.filterMap fun l =>
    match l.content with
    | .error e => some (l.origin, e)
    | .ok _ => none
  if faults.isEmpty then
    .ok ((layers.filterMap fun l => l.content.toOption).foldl Node.merge (.table .program []))
  else .error (.documents faults.reverse)

/-! ## The loader -/

/-- What to load settings from. -/
structure Loader where
  profile : Profile
  /-- The directories to search; the usual ones if there are none. -/
  paths : List String := []
  useEnvironment : Bool := true
  /-- The only file to load, if one was asked for. -/
  file : Option String := none
  /-- What the program itself sets, in order. -/
  overrides : List Settings := []

namespace Loader

/-- A loader for the profile that the environment names. -/
def ofSystem (s : System) : Loader where
  profile := (s.environment.lookup "ALLOY_PROFILE").elim .development Profile.ofName

/-- The loader with one more directory to search. -/
def search (l : Loader) (path : String) : Loader :=
  { l with paths := l.paths ++ [path] }

/-- The loader that also searches the current directory. -/
def searchCurrent (l : Loader) (s : System) : Loader :=
  l.search s.disk.currentPath

/-- The loader that also searches the directory of the user. -/
def searchUser (l : Loader) (s : System) : Loader :=
  match s.userDirectory with
  | some path => l.search (Path.join path "alloy")
  | none => l

/-- The loader with settings of the program itself, which win over all before them. -/
def override (l : Loader) (settings : Settings) : Loader :=
  { l with overrides := l.overrides ++ [settings] }

/-- The directories that are searched. -/
def searched (l : Loader) (s : System) : List String :=
  if l.paths.isEmpty then
    s.disk.currentPath :: (s.userDirectory.map (Path.join · "alloy")).toList
  else l.paths

/-- The files of a format that take part in a search. -/
def choices (l : Loader) (s : System) (f : FileFormat) : List Choice :=
  chosen s.disk.exists? (candidates f l.profile (l.searched s))

/-- The written paths of all files that may take part. -/
def filePaths (l : Loader) (s : System) : List String :=
  match l.file with
  | some path => [path]
  | none =>
    [FileFormat.toml, .yaml].flatMap fun f =>
      (candidates f l.profile (l.searched s)).flatMap fun c => [c.variant, c.base]

/-- The layers of files. -/
def fileLayers (l : Loader) (s : System) : Except Error (List Layer) :=
  match l.file with
  | some path =>
    if !s.disk.exists? path then .error (.missingFile path)
    else
      match FileFormat.ofEnding? (Path.ending path) with
      | some f => .ok [fileLayer s.disk f path]
      | none => .error (.unreadable (.format (Path.ending path)))
  | none =>
    .ok ([FileFormat.toml, .yaml].flatMap fun f =>
      (l.choices s f).map fun c => fileLayer s.disk f c.path)

/-- All layers, lowest first. -/
def layers (l : Loader) (s : System) : Except Error (List Layer) := do
  let files ← l.fileLayers s
  let environment : List Layer :=
    if l.useEnvironment then
      [{ origin := .environment, content := .ok s.environment.settings }]
    else []
  let own (settings : Settings) : Layer :=
    { origin := .program, content := .ok settings.encode }
  pure (own {} :: files ++ environment ++ l.overrides.map own)

/-- The settings that fit a tree. -/
def extract (n : Node) : Except Error Settings :=
  (decode .lenient [] n).mapError fun f => .unreadable (.misfit f.misfit f.path f.origin)

/-- The settings, not checked yet. -/
def load (l : Loader) (s : System) : Except Error Settings := do
  let layers ← l.layers s
  let merged ← (mergeLayers layers).mapError .unreadable
  extract merged

/-- The settings, if they can drive the service. -/
def loadChecked (l : Loader) (s : System) : Except Error Settings := do
  let settings ← l.load s
  settings.check.mapError .unusable
  pure settings

/-! ## Reports -/

/-- What is reported about the files that take part. -/
def fileEvents (l : Loader) (s : System) : List Log.Event :=
  match l.file with
  | some path => if s.disk.exists? path then [(Choice.base path).event] else []
  | none =>
    let found := [FileFormat.toml, .yaml].flatMap (l.choices s)
    let isBase : Choice → Bool
      | .base _ => true
      | .variant _ => false
    let nothing : Log.Event :=
      { level := .warn
        target := "alloy_runtime::config::loader"
        message := "No configuration file found, using defaults"
        fields := [("paths", .shown (Text.quotedList (l.searched s)))] }
    found.map Choice.event ++ if found.any isBase then [] else [nothing]

/-- What is reported about loading. -/
def events (l : Loader) (s : System) : List Log.Event :=
  let environment : List Log.Event :=
    match l.layers s with
    | .ok _ =>
      if l.useEnvironment then
        [{ level := .trace
           target := "alloy_runtime::config::loader"
           message := "Loading environment variables with ALLOY_ prefix" }]
      else []
    | .error _ => []
  let loaded : List Log.Event :=
    match l.load s with
    | .ok settings =>
      [{ level := .debug
         target := "alloy_runtime::config::loader"
         message := "Configuration loaded successfully"
         fields :=
          [("profile", .shown l.profile.name), ("prefix", .shown settings.commands.sigil),
            ("logging_level", .shown settings.logging.level.name)] }]
    | .error _ => []
  l.fileEvents s ++ environment ++ loaded

end Loader

end ChatCommand.Settings
