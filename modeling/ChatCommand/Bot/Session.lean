import ChatCommand.Bot.Commands
import ChatCommand.Bot.Options
import ChatCommand.Log.Setup
import ChatCommand.Service.Routing

/-!
# Sessions of the bot

A session takes each line that is typed for a chat message and prints the replies. `Bot.start` goes
from the command line to a session, `Session.answer` from a line to what is printed.
-/

namespace ChatCommand.Bot

/-- A line with the place where it is printed. -/
structure Printed where
  destination : Log.Destination
  text : String
deriving DecidableEq, Repr

/-- A bot that runs. -/
structure Session where
  options : Options
  service : Service
  logger : Log.Logger

/-- What a logger prints about the steps. -/
def logged (logger : Log.Logger) (stamp : Log.Stamp) (steps : List Log.Step) : List Printed :=
  (logger.lines stamp steps).map fun text => { destination := logger.destination, text }

/-- An event of the bot itself. -/
def event (level : Log.Level) (message : String) (fields : List (String × Log.Value) := []) :
    Log.Step :=
  .event { level, target := "command_bot", message, fields }

/-- A line for the standard error stream. -/
def complaint (text : String) : Printed where
  destination := .stderr
  text := text

/-- The draft of the bot, with the settings file that the options name. -/
def Options.draft (o : Options) : Draft :=
  { Bot.draft with settingsFile := o.config }

/-- A session in the system, or the exit code, with what is printed before any message. -/
def open? (o : Options) (s : Settings.System) (stamp : Log.Stamp) :
    List Printed × Except Nat Session :=
  let failed (e : ServiceError) : List Printed := [complaint ("Error: " ++ e.message)]
  match o.draft.settle s with
  | .error e => (failed (.settings e), .error 1)
  | .ok settings =>
    let setup := Log.Setup.ofSettings settings.logging
    let logger := setup.logger s.environment
    let events := setup.events ++ o.draft.completedEvents settings
    let opening := setup.complaints.map complaint ++ logged logger stamp (events.map .event)
    match o.draft.buildWith settings with
    | .error e => (opening ++ failed e, .error 1)
    | .ok service =>
      let greeting := event .info "Type a message, Ctrl+D to quit"
        [("groups", .number service.registry.groups.length),
          ("commands", .number service.registry.size), ("sender", .shown o.senderName)]
      (opening ++ logged logger stamp [greeting], .ok { options := o, service, logger })

/-- A session by the command line, or the exit code, with what is printed before any message. -/
def start (args : List String) (s : Settings.System) (stamp : Log.Stamp) :
    List Printed × Except Nat Session :=
  match ({} : Options).read args with
  | .ok o => open? o s stamp
  | .error .help => (helpLines.map fun text => { destination := .stdout, text }, .error 0)
  | .error .misuse =>
    ([complaint "error: unexpected arguments", complaint "",
      complaint "Usage: command-bot [OPTIONS]"], .error 2)

namespace Session

/-- The message that a line stands for, if there is anything in it. -/
def message? (s : Session) (line : String) : Option Message :=
  let text := Text.trim line
  if text.isEmpty then none
  else some { sender := s.options.senderName, channel := s.options.channel, text }

/-- A reply as it is printed. -/
def replyLine (r : Reply) : Printed where
  destination := .stdout
  text := "[" ++ r.delivery.name ++ " -> " ++ r.recipient ++ "] " ++ r.text

/-- What is printed for a line. -/
def answer (s : Session) (stamp : Log.Stamp) (line : String) : List Printed :=
  match s.message? line with
  | none => []
  | some m =>
    logged s.logger stamp (s.service.handleSteps m) ++
      match s.service.handle m with
      | .ok replies => replies.map replyLine
      | .error e =>
        logged s.logger stamp
          [event .error ("Failed to handle " ++ Text.quoted m.text ++ ": " ++ e.message)]

end Session

/-- A whole run on the lines of the input: what is printed, and the exit code. -/
def run (args : List String) (s : Settings.System) (stamp : Log.Stamp) (lines : List String) :
    List Printed × Nat :=
  match start args s stamp with
  | (opening, .error code) => (opening, code)
  | (opening, .ok session) => (opening ++ lines.flatMap (session.answer stamp), 0)

end ChatCommand.Bot
