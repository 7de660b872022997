import ChatCommand.Service.Basic
import ChatCommand.Service.Error

/-!
# Routing

The way of a message through a service: past the sigil, to the first command that accepts the rest
of the text, past the gate for operators, to the handler. `Service.route` says how far a message
gets, `Service.handle` what the sender gets to see of it.
-/

namespace ChatCommand

/-- How far a message gets. -/
inductive Routing where
  /-- It does not start with the sigil. -/
  | noSigil
  /-- No command accepts the text behind the sigil. -/
  | noCommand (body : String)
  /-- The command is reserved for operators, and the sender is none. -/
  | rejected (body : String) (hit : Hit)
  /-- The command has no handler. -/
  | unhandled (body : String) (hit : Hit)
  /-- The handler of the command was asked. -/
  | answered (body : String) (invocation : Invocation) (handler : Handler)

namespace Service

/-- What follows the sigil in a text that starts with it. -/
def body? (s : Service) (text : String) : Option String :=
  if s.sigil.toList.isPrefixOf text.toList then
    some (String.ofList (text.toList.drop s.sigil.toList.length))
  else none

/-- How far the message gets. -/
def route (s : Service) (m : Message) : Routing :=
  match s.body? m.text with
  | none => .noSigil
  | some body =>
    match s.registry.dispatchAtStart? body with
    | none => .noCommand body
    | some hit =>
      if hit.command.operatorOnly && !s.isOperator m.sender then .rejected body hit
      else
        match s.handlers.get? hit.group hit.command.name with
        | none => .unhandled body hit
        | some handler =>
          let invocation :=
            { message := m, hit, registry := s.registry, settings := s.settings }
          .answered body invocation handler

end Service

namespace Routing

/-- What the sender gets: replies, none where no command was invoked, or an error. -/
def result : Routing → Except ServiceError (List Reply)
  | noSigil | noCommand _ | rejected _ _ => .ok []
  | unhandled _ hit => .error (.handlerMissing hit.group hit.command.name)
  | answered _ i handler =>
    match handler.answer i with
    | .ok replies => .ok replies
    | .error reason => .error (.handlerFailed i.hit.command.name reason)

/-- An event of the routing itself. -/
def event (level : Log.Level) (message : String) (fields : List (String × Log.Value) := []) :
    Log.Event :=
  { level, target := "alloy_runtime::runtime", message, fields }

/-- What is reported about the message. -/
def events (sender : String) : Routing → List Log.Event
  | noSigil => [event .trace "Message has no command prefix"]
  | noCommand body => Registry.dispatchEvents body none ++ [event .debug "No command matched"]
  | rejected body hit =>
    Registry.dispatchEvents body hit ++
      [event .warn "Operator-only command rejected"
        [("command", .shown hit.command.name), ("sender", .shown sender)]]
  | unhandled body hit => Registry.dispatchEvents body hit
  | answered body i handler =>
    let command := ("command", Log.Value.shown i.hit.command.name)
    Registry.dispatchEvents body i.hit ++ handler.events i ++
      match handler.answer i with
      | .ok replies =>
        [event .debug "Command handled" [command, ("replies", .number replies.length)]]
      | .error reason => [event .error ("Command handler failed: " ++ reason) [command]]

end Routing

namespace Service

/-- The replies to a message, or why there are none. -/
def handle (s : Service) (m : Message) : Except ServiceError (List Reply) :=
  (s.route m).result

/-- The span around the work on a message. -/
def span (m : Message) : Log.Span where
  level := .debug
  target := "alloy_runtime::runtime"
  name := "handle_message"
  fields := [("sender", .shown m.sender), ("channel", .quoted (m.channel.getD "-"))]

/-- What is reported about a message. -/
def handleSteps (s : Service) (m : Message) : List Log.Step :=
  (span m).around ((s.route m).events m.sender)

end Service

end ChatCommand
