import ChatCommand.Argument

/-!
# Command errors

Why a command cannot be defined or registered. All of them arise before any message is handled.
-/

namespace ChatCommand

/-- What is wrong with a definition. -/
inductive DefinitionFault where
  | emptyName
  | emptyAlias
  | repeatedName (name : String)
  | emptyArgument
  | repeatedArgument (name : String)
  | badFormat (argument : String) (fault : FormatFault)
  | badMatcher (cause : PatternError)
  /-- A fault that the caller describes. -/
  | stated (reason : String)
deriving DecidableEq, Repr

/-- The fault in words. -/
def DefinitionFault.message : DefinitionFault → String
  | emptyName => "command name is empty"
  | emptyAlias => "alias is empty"
  | repeatedName name => "name '" ++ name ++ "' is declared more than once"
  | emptyArgument => "argument name is empty"
  | repeatedArgument name => "duplicate argument '" ++ name ++ "'"
  | badFormat argument fault => "argument '" ++ argument ++ "': " ++ fault.message
  | badMatcher cause => "matcher does not compile: " ++ cause.message
  | stated reason => reason

/-- Why a command cannot be defined or registered. -/
inductive CommandError where
  /-- The definition of `command` is at fault. -/
  | invalid (command : String) (fault : DefinitionFault)
  /-- There is no type of that name. -/
  | unknownType (name : String)
  /-- The name belongs to a command of the group already. -/
  | duplicateName (group name : String)
deriving DecidableEq, Repr

namespace CommandError

/-- The error in words. -/
def message : CommandError → String
  | invalid command fault =>
    "invalid argument spec for command '" ++ command ++ "': " ++ fault.message
  | unknownType name =>
    "unknown argument type tag '" ++ name ++ "' (expected string, integer, float or text)"
  | duplicateName group name =>
    "command name '" ++ name ++ "' is already registered in group '" ++ group ++ "'"

/-- The definition is at fault, not what has been registered before. -/
def isDefinition : CommandError → Bool
  | invalid _ _ | unknownType _ => true
  | duplicateName _ _ => false

end CommandError

end ChatCommand
