import ChatCommand.Help
import ChatCommand.Message
import ChatCommand.Settings.Schema

/-!
# Handlers

A handler answers the invocations of a command. It sees the message, what it was dispatched to, all
registered commands and the settings, and gives replies or a reason why there are none.
-/

namespace ChatCommand

/-- An invocation of a command by a message. -/
structure Invocation where
  message : Message
  /-- The command, its group, and the values of its arguments. -/
  hit : Hit
  /-- All commands of the service. -/
  registry : Registry
  settings : Settings

namespace Invocation

/-- The values of the arguments. -/
def values (i : Invocation) : Values :=
  i.hit.values

/-- The author of the message. -/
def sender (i : Invocation) : String :=
  i.message.sender

/-- What commands start with. -/
def sigil (i : Invocation) : String :=
  i.settings.commands.sigil

/-- A reply to where the message came from. -/
def reply (i : Invocation) (text : String) : Reply :=
  Reply.toOrigin i.message text

/-- A notice to the author of the message. -/
def notice (i : Invocation) (text : String) : Reply :=
  Reply.notice i.message text

/-- A private message to the author of the message. -/
def query (i : Invocation) (text : String) : Reply :=
  Reply.query i.message text

/-- A reply the way the settings want help to be delivered. -/
def respond (i : Invocation) (text : String) : Reply :=
  match i.settings.help.response with
  | .notice => i.notice text
  | .send => i.query text
  | .reply => i.reply text

end Invocation

/-- What answers the invocations of a command. -/
structure Handler where
  /-- The replies, or the reason why there are none. -/
  answer : Invocation → Except String (List Reply)
  /-- What the handler itself reports. -/
  events : Invocation → List Log.Event := fun _ => []

namespace Handler

/-- A handler that may give no replies but never fails. -/
def replies (f : Invocation → List Reply) : Handler where
  answer i := .ok (f i)

/-- A handler that answers with one line. -/
def line (f : Invocation → String) : Handler :=
  replies fun i => [i.reply (f i)]

/-- A handler that answers with one line or fails. -/
def line? (f : Invocation → Except String String) : Handler where
  answer i := (f i).map fun text => [i.reply text]

end Handler

/-- The lines of the built-in help command: about the commands of one name if it has a value, about
all commands otherwise. -/
def Help.lines (i : Invocation) : List String :=
  match i.values.get? 0 with
  | some name => Help.detail i.registry name i.sigil
  | none => Help.listing i.registry.commands i.sigil

/-- The handler of the built-in help command. -/
def Help.handler : Handler :=
  .replies fun i => (Help.lines i).map i.respond

end ChatCommand
