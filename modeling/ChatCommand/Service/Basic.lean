import ChatCommand.Service.Handler

/-!
# Services

A service holds what it takes to answer messages: settings, commands, and a handler for every
command. Nothing of it changes while messages are answered.
-/

namespace ChatCommand

/-- Handlers by group and primary name of their commands; no key occurs twice. -/
structure Handlers where
  entries : List ((String × String) × Handler) := []

namespace Handlers

/-- The handlers with one more, or with another one for a key that is there. -/
def insert (h : Handlers) (group name : String) (handler : Handler) : Handlers where
  entries := h.entries.filter (·.1 != (group, name)) ++ [((group, name), handler)]

/-- The handler of the command of that name in the group. -/
def get? (h : Handlers) (group name : String) : Option Handler :=
  h.entries.lookup (group, name)

/-- The number of handlers. -/
def size (h : Handlers) : Nat :=
  h.entries.length

end Handlers

/-- What answers messages. -/
structure Service where
  settings : Settings
  registry : Registry
  handlers : Handlers

namespace Service

/-- What messages start with to be taken for commands. -/
def sigil (s : Service) : String :=
  s.settings.commands.sigil

/-- The sender may invoke the commands that are reserved for operators. -/
def isOperator (s : Service) (sender : String) : Bool :=
  s.settings.commands.operators.contains sender

/-- The service with its measures spelled out. -/
def describe (s : Service) : String :=
  "CommandRuntime \x7b prefix: " ++ Text.quoted s.sigil ++ ", commands: " ++
    toString s.registry.size ++ ", handlers: " ++ toString s.handlers.size ++ " \x7d"

end Service

end ChatCommand
