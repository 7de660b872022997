import ChatCommand.Command.Error
import ChatCommand.Settings.Error

/-!
# Service errors

Why a service cannot be set up, or why a message has no answer.
-/

namespace ChatCommand

/-- Why a service cannot be set up or cannot answer. -/
inductive ServiceError where
  | command (cause : CommandError)
  | settings (cause : Settings.Error)
  /-- The handler of the command gave a reason instead of replies. -/
  | handlerFailed (command reason : String)
  /-- The command has no handler. -/
  | handlerMissing (group command : String)
deriving DecidableEq, Repr

/-- The error in words. -/
def ServiceError.message : ServiceError → String
  | command cause => cause.message
  | settings cause => cause.message
  | handlerFailed name reason => "Handler for command '" ++ name ++ "' failed: " ++ reason
  | handlerMissing group name =>
    "No handler registered for command '" ++ name ++ "' in group '" ++ group ++ "'"

end ChatCommand
