import ChatCommand.Command.Error
import ChatCommand.Command.Values
import ChatCommand.Regex.Match

/-!
# Commands

A `Definition` says how a command is called, and `Definition.compile` turns it into a `Command`,
which has passed all checks and holds its matcher. `Command.captures?` finds an invocation at the
end of a text, `Command.capturesAtStart?` one that makes up the whole text.
-/

namespace ChatCommand

/-- What a command is called and takes. -/
structure Definition where
  name : String
  arguments : List Argument := []
  /-- Further names, in order. -/
  aliases : List String := []
  /-- One line about the command. -/
  summary : Option String := none
  /-- A longer text about it. -/
  description : Option String := none
  /-- Only operators may invoke it. The command itself does not look at this. -/
  operatorOnly : Bool := false
deriving DecidableEq, Repr

namespace Definition

/-- All names, the primary one first. -/
def names (d : Definition) : List String :=
  d.name :: d.aliases

/-- Refuses an alias that is empty or that is among the names before it. -/
def checkAliases : (before aliases : List String) → Except DefinitionFault Unit
  | _, [] => .ok ()
  | before, a :: as =>
    if a.isEmpty then .error .emptyAlias
    else if before.contains a then .error (.repeatedName a)
    else checkAliases (a :: before) as

/-- Refuses an argument whose name is empty or among those before it, or whose format is faulty. -/
def checkArguments (limit : Nat) :
    (before : List String) → List Argument → Except DefinitionFault Unit
  | _, [] => .ok ()
  | before, a :: as =>
    if a.name.isEmpty then .error .emptyArgument
    else if before.contains a.name then .error (.repeatedArgument a.name)
    else
      match a.format.check limit with
      | .error fault => .error (.badFormat a.name fault)
      | .ok () => checkArguments limit (a.name :: before) as

/-- Refuses a definition that could not be invoked or whose arguments could not be told apart. -/
def check (d : Definition) (limit : Nat := Regex.roomLimit) : Except DefinitionFault Unit :=
  if d.name.isEmpty then .error .emptyName
  else
    match checkAliases [d.name] d.aliases with
    | .error fault => .error fault
    | .ok () => checkArguments limit [] d.arguments

/-- The name under which the matcher captures the argument at a position. -/
def captureName (i : Nat) : String :=
  "arg" ++ toString i

/-- The pattern of an argument with the blank in front of it. -/
def argumentPattern (i : Nat) (a : Argument) : List Pattern :=
  let value := Pattern.capture (captureName i) a.format.toPattern
  if a.optional then [.optional (.sequence [.blank, value])] else [.blank, value]

/-- The pattern of an invocation: a name, each argument behind one blank, and the end of the
text. -/
def pattern (d : Definition) : Pattern :=
  .sequence (.choice (d.names.map .literal) ::
    (d.arguments.mapIdx argumentPattern).flatten ++ [.textEnd])

/-- The matcher of the command, if the definition is in order and no pattern in it takes more room
than `limit`. -/
def matcher (d : Definition) (limit : Nat := Regex.roomLimit) : Except DefinitionFault Regex :=
  match d.check limit with
  | .error fault => .error fault
  | .ok () =>
    match d.pattern.compile limit with
    | .ok r => .ok r
    | .error cause => .error (.badMatcher cause)

/-- The usage line, with `sigil` in front of the name. -/
def usage (d : Definition) (sigil : String) : String :=
  d.arguments.foldl (fun line a => line ++ " " ++ a.usage) (sigil ++ d.name)

end Definition

/-- What messages start with to invoke a command, unless the settings say otherwise. -/
def defaultSigil : String := "!"

/-- A command: a definition in order, with its matcher. How much room there was for the matcher does
not count, so what holds of all commands does not depend on how room is estimated. -/
structure Command extends Definition where
  regex : Regex
  matcher_eq : ∃ limit, toDefinition.matcher limit = .ok regex

/-- The command of a definition whose matcher is `r`. -/
def Definition.command (d : Definition) {r : Regex} (h : d.matcher = .ok r) : Command where
  toDefinition := d
  regex := r
  matcher_eq := ⟨Regex.roomLimit, h⟩

/-- The command of a definition, if the definition is in order. -/
def Definition.compile (d : Definition) : Except CommandError Command :=
  match h : d.matcher with
  | .ok _ => .ok (d.command h)
  | .error fault => .error (.invalid d.name fault)

namespace Command

/-- The pattern syntax of the matcher. -/
def source (c : Command) : String :=
  c.pattern.source

/-- The values of the arguments, read off a match in the text. -/
def valuesOf (c : Command) (text : List Char) (found : Regex.Found) : Values where
  entries := c.arguments.mapIdx fun i a =>
    (a.name, (found.capture? (Definition.captureName i)).map fun s => String.ofList (s.chars text))

/-- The text ends with an invocation. -/
def isMatch (c : Command) (text : String) : Bool :=
  (c.regex.find text).isSome

/-- The values in the leftmost invocation that reaches to the end of the text. -/
def captures? (c : Command) (text : String) : Option Values :=
  (c.regex.find text).map (c.valuesOf text.toList)

/-- The values in the invocation that makes up the text. -/
def capturesAtStart? (c : Command) (text : String) : Option Values :=
  match c.regex.find text with
  | some found => if found.span.start = 0 then some (c.valuesOf text.toList found) else none
  | none => none

/-- The command with its fields spelled out. -/
def describe (c : Command) : String :=
  "Command \x7b name: " ++ Text.quoted c.name ++ ", aliases: " ++ Text.quotedList c.aliases ++
    ", arguments: [" ++ ", ".intercalate (c.arguments.map Argument.describe) ++
    "], op_command: " ++ (if c.operatorOnly then "true" else "false") ++
    ", matcher: " ++ Text.quoted c.source ++ " \x7d"

end Command

end ChatCommand
