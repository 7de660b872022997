import ChatCommand.Registry

/-!
# Help texts

The lines that the built-in help command answers with: a listing of all commands, or what there is
to say about the commands of one name.
-/

namespace ChatCommand.Help

/-- The definition of the built-in help command. -/
def definition : Definition where
  name := "help"
  arguments := [{ name := "COMMAND", format := .type .string, optional := true }]
  summary := some "List all commands or displays help information for the given COMMAND"
  description := some <|
    "List all possible commands when supplied with no arguments otherwise finds the " ++
      "specified COMMAND and prints the usage and description."

/-- The group of the built-in help command. -/
def group : String := "builtin.help"

/-- One line for each command: its usage and its summary. -/
def listing (commands : List Command) (sigil : String) : List String :=
  commands.map fun c =>
    match c.summary with
    | some summary => c.usage sigil ++ " - " ++ summary
    | none => c.usage sigil

/-- The usage of every command of that primary name, an empty line, and the description of the first
of them. -/
def detail (r : Registry) (name sigil : String) : List String :=
  match r.lookup name with
  | [] => ["help: Unknown command " ++ Text.quoted name]
  | c :: cs => (c :: cs).map (·.usage sigil) ++ [""] ++ c.description.toList

end ChatCommand.Help
