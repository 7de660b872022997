import ChatCommand.Log.Logger
import ChatCommand.Path
import ChatCommand.Settings.Environment

/-!
# Setting up a logger

A `Log.Setup` collects what the settings and the program want, and becomes a logger in an
environment, which may have directives of its own.
-/

namespace ChatCommand

/-- No event in the life of a span. -/
def SpanEvents.nothing : SpanEvents := {}

/-- The beginning and the end of a span. -/
def SpanEvents.lifecycle : SpanEvents where
  new := true
  close := true

/-- All events in the life of a span. -/
def SpanEvents.full : SpanEvents where
  new := true
  enter := true
  exit := true
  close := true

namespace Log

/-- What is wanted of a logger. -/
structure Setup where
  level : Level := .info
  /-- Directives that are added to the level. -/
  directives : List String := []
  layout : Layout := {}
  output : LogOutput := .stdout
  filePath : Option String := none
  spanEvents : SpanEvents := {}
deriving DecidableEq, Repr

namespace Setup

/-- What the settings want. -/
def ofSettings (s : LogSettings) : Setup where
  level := s.level
  directives := s.filters.map fun (target, level) => target ++ "=" ++ level.name
  layout := { format := s.format, threads := s.threadIds, location := s.fileLocation }
  output := s.output
  filePath := s.filePath
  spanEvents := s.spanEvents

/-- The filter before the directives: the one that the environment wants, if it can be read. -/
def baseFilter (s : Setup) (environment : Settings.Environment) : Filter :=
  ((environment.lookup "RUST_LOG").bind Filter.read?).getD (.ofLevel s.level)

/-- The filter. Directives that cannot be read are left out. -/
def filter (s : Setup) (environment : Settings.Environment) : Filter :=
  s.directives.foldl
    (fun f d =>
      match Directive.read d with
      | .ok d => f.add d
      | .error _ => f)
    (s.baseFilter environment)

/-- What is said about directives that cannot be read. -/
def complaints (s : Setup) : List String :=
  s.directives.filterMap fun d =>
    match Directive.read d with
    | .ok _ => none
    | .error e => some ("Ignoring invalid log directive " ++ Text.quoted d ++ ": " ++ e.message)

/-- The path of a log file. Where a path ends without a name, the file has the usual one. -/
def logFile (path : String) : String :=
  let parts := Path.parts path
  let place := if (Path.name? path).isSome then parts else parts.dropLast ++ ["alloy.log"]
  if Path.isAbsolute path && !parts.isEmpty then Path.absolute place else "/".intercalate place

/-- Where lines go; a file without a path is replaced by the standard output. -/
def destination (s : Setup) : Destination :=
  match s.output with
  | .stdout => .stdout
  | .stderr => .stderr
  | .file => (s.filePath.map fun path => .file (logFile path)).getD .stdout

/-- The logger. -/
def logger (s : Setup) (environment : Settings.Environment) : Logger where
  filter := s.filter environment
  layout := s.layout
  spanEvents := s.spanEvents
  destination := s.destination

/-- What is reported to the logger at once: what it does not do as it was asked to. -/
def events (s : Setup) : List Event :=
  let warning (message : String) : Event :=
    { level := .warn, target := "alloy_runtime::logging", message }
  (if s.layout.format = .json then
    [warning "JSON log format requires the `json-log` feature, using compact"] else []) ++
  if s.output = .file && s.filePath.isNone then
    [warning "File output requested but no file path configured, using stdout"] else []

end Setup

end Log

end ChatCommand
