import ChatCommand.Command.Basic
import ChatCommand.Log.Event

/-!
# The registry of commands

Commands are registered in groups. Within a group no two commands share a name or alias; groups do
not look at each other. A text is dispatched to the first command that accepts it, groups in the
order in which they appeared and commands in the order of registration.
-/

namespace ChatCommand

/-- The commands of one group, in the order of registration. -/
structure Group where
  name : String
  commands : List Command := []

namespace Group

/-- The command that has the name, or has it as an alias. -/
def find? (g : Group) (name : String) : Option Command :=
  g.commands.find? (·.names.contains name)

/-- The first name of `c` that a command of the group has already. -/
def taken? (g : Group) (c : Command) : Option String :=
  c.names.find? fun n => (g.find? n).isSome

/-- The group with `c` as its last command, unless a name of `c` is taken. -/
def register (g : Group) (c : Command) : Except CommandError Group :=
  match g.taken? c with
  | some n => .error (.duplicateName g.name n)
  | none => .ok { g with commands := g.commands ++ [c] }

/-- What is reported about the registration of `c`. -/
def registerEvent (g : Group) (c : Command) : Log.Event :=
  let fields := [("group", Log.Value.shown g.name), ("command", .shown c.name)]
  match g.taken? c with
  | some n =>
    { level := .warn
      target := "alloy_command::registry"
      message := "Command name collides with an existing command"
      fields := fields ++ [("name", .quoted n)] }
  | none =>
    { level := .debug
      target := "alloy_command::registry"
      message := "Registered command"
      fields := fields ++ [("matcher", .shown c.source)] }

end Group

/-- All groups, in the order in which they appeared. -/
structure Registry where
  groups : List Group := []

/-- The command that a text was dispatched to. -/
structure Hit where
  group : String
  command : Command
  values : Values

namespace Registry

/-- The group of that name. -/
def group? (r : Registry) (name : String) : Option Group :=
  r.groups.find? (·.name == name)

/-- The registry with a group of that name, which comes last if it is new. -/
def ensure (r : Registry) (name : String) : Registry :=
  if (r.group? name).isSome then r else { r with groups := r.groups ++ [{ name }] }

/-- The registry with another group in place of the one of the same name. -/
def replace (r : Registry) (g : Group) : Registry :=
  { r with groups := r.groups.map fun h => if h.name == g.name then g else h }

/-- The group of that name, empty if there is none. -/
def groupOrNew (r : Registry) (name : String) : Group :=
  (r.group? name).getD { name }

/-- Registers a command in a group, which is created if there is none of that name. -/
def register (r : Registry) (group : String) (c : Command) :
    Registry × Except CommandError Unit :=
  let r := r.ensure group
  match (r.groupOrNew group).register c with
  | .ok g => (r.replace g, .ok ())
  | .error e => (r, .error e)

/-- What is reported about the registration of a command. -/
def registerEvents (r : Registry) (group : String) (c : Command) : List Log.Event :=
  [(r.groupOrNew group).registerEvent c]

/-- Compiles a definition and registers the command in a group, which is created in any case. -/
def define (r : Registry) (group : String) (d : Definition) :
    Registry × Except CommandError Command :=
  let r := r.ensure group
  match d.compile with
  | .error e => (r, .error e)
  | .ok c =>
    match r.register group c with
    | (r, .ok ()) => (r, .ok c)
    | (r, .error e) => (r, .error e)

/-- What is reported about the registration of a definition. -/
def defineEvents (r : Registry) (group : String) (d : Definition) : List Log.Event :=
  match d.compile with
  | .error _ => []
  | .ok c => r.registerEvents group c

/-- All commands, in the order in which texts are dispatched to them. -/
def commands (r : Registry) : List Command :=
  r.groups.flatMap (·.commands)

/-- The number of commands. -/
def size (r : Registry) : Nat :=
  r.commands.length

/-- The commands with that primary name. -/
def lookup (r : Registry) (name : String) : List Command :=
  r.commands.filter (·.name == name)

/-- The first command for which `captures` finds values. -/
def firstHit? (r : Registry) (captures : Command → Option Values) : Option Hit :=
  r.groups.findSome? fun g =>
    g.commands.findSome? fun c => (captures c).map fun v => ⟨g.name, c, v⟩

/-- The first command that a part of the text invokes. -/
def dispatch? (r : Registry) (text : String) : Option Hit :=
  r.firstHit? (·.captures? text)

/-- The first command that the whole text invokes. -/
def dispatchAtStart? (r : Registry) (text : String) : Option Hit :=
  r.firstHit? (·.capturesAtStart? text)

/-- What is reported about a dispatch of the text. -/
def dispatchEvents (text : String) (hit? : Option Hit) : List Log.Event :=
  match hit? with
  | some hit =>
    [{ level := .debug
       target := "alloy_command::dispatcher"
       message := "Command matched"
       fields := [("group", .shown hit.group), ("command", .shown hit.command.name)] }]
  | none =>
    [{ level := .trace
       target := "alloy_command::dispatcher"
       message := "No command matched"
       fields := [("text", .quoted text)] }]

end Registry

end ChatCommand
