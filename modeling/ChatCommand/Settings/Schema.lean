import ChatCommand.Command.Basic
import ChatCommand.Log.Event

/-!
# Settings

What a user can set: how commands are written and who may run which, how help is delivered, and how
the library logs. Every field has a default.
-/

namespace ChatCommand

/-- How commands are written and who are operators. -/
structure CommandSettings where
  /-- What a message starts with to be taken for a command. -/
  sigil : String := defaultSigil
  /-- The senders who may run commands that are reserved for operators. -/
  operators : List String := []
deriving DecidableEq, Repr

/-- Where the output of the help command goes. -/
inductive HelpResponse where
  /-- As a notice to the sender. -/
  | notice
  /-- As a private message to the sender. -/
  | send
  /-- Where the request came from. -/
  | reply
deriving DecidableEq, Repr

/-- The built-in help command. -/
structure HelpSettings where
  enabled : Bool := true
  response : HelpResponse := .reply
deriving DecidableEq, Repr

/-- The layout of log lines. -/
inductive LogFormat where
  | compact
  | full
  | pretty
  | json
deriving DecidableEq, Repr

/-- Where log lines go. -/
inductive LogOutput where
  | stdout
  | stderr
  | file
deriving DecidableEq, Repr

/-- Which events in the life of a span are logged. -/
structure SpanEvents where
  new : Bool := false
  enter : Bool := false
  exit : Bool := false
  close : Bool := false
deriving DecidableEq, Repr

/-- How the library logs. -/
structure LogSettings where
  level : Log.Level := .info
  format : LogFormat := .compact
  output : LogOutput := .stdout
  /-- The log file, which `output` may require. -/
  filePath : Option String := none
  threadIds : Bool := false
  fileLocation : Bool := false
  spanEvents : SpanEvents := {}
  /-- Levels for parts of the program, by their names. -/
  filters : List (String × Log.Level) := []
deriving DecidableEq, Repr

/-- All settings. -/
structure Settings where
  commands : CommandSettings := {}
  help : HelpSettings := {}
  logging : LogSettings := {}
deriving DecidableEq, Repr

/-! ## Alternatives where none is chosen -/

instance : Inhabited Log.Level := ⟨.info⟩

instance : Inhabited HelpResponse := ⟨.reply⟩

instance : Inhabited LogFormat := ⟨.compact⟩

instance : Inhabited LogOutput := ⟨.stdout⟩

/-! ## Names of the alternatives -/

/-- All kinds of help delivery, in order. -/
def HelpResponse.all : List HelpResponse := [notice, send, reply]

/-- The name of a kind of help delivery in settings. -/
def HelpResponse.name : HelpResponse → String
  | notice => "notice"
  | send => "send"
  | reply => "reply"

/-- All layouts, in order. -/
def LogFormat.all : List LogFormat := [compact, full, pretty, json]

/-- The name of a layout in settings. -/
def LogFormat.name : LogFormat → String
  | compact => "compact"
  | full => "full"
  | pretty => "pretty"
  | json => "json"

/-- All destinations, in order. -/
def LogOutput.all : List LogOutput := [stdout, stderr, file]

/-- The name of a destination in settings. -/
def LogOutput.name : LogOutput → String
  | stdout => "stdout"
  | stderr => "stderr"
  | file => "file"

end ChatCommand
