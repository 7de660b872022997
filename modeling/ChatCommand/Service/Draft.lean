import ChatCommand.Service.Basic
import ChatCommand.Service.Error
import ChatCommand.Settings.Loader

/-!
# Drafts of services

Commands are registered, each with its handler, in a draft. `Draft.build` settles the settings and
turns the draft into a service; the built-in help command is registered last, so that its group is
the last one unless something was registered there before.
-/

namespace ChatCommand

/-- A service that is still being put together. -/
structure Draft where
  registry : Registry := {}
  handlers : Handlers := {}
  /-- The settings, if the program decides on them itself. -/
  settings : Option Settings := none
  /-- The file to load settings from, if the program names one. -/
  settingsFile : Option String := none

namespace Draft

/-! ## Registration -/

/-- Registers a command with its handler. A draft that refuses a command stays as it is. -/
def register (d : Draft) (group : String) (c : Command) (h : Handler) :
    Draft × Except CommandError Command :=
  match d.registry.register group c with
  | (r, .ok ()) => ({ d with registry := r, handlers := d.handlers.insert group c.name h }, .ok c)
  | (r, .error e) => ({ d with registry := r }, .error e)

/-- What is reported about the registration of a command. -/
def registerEvents (d : Draft) (group : String) (c : Command) : List Log.Event :=
  d.registry.registerEvents group c

/-- Compiles a definition and registers the command with its handler. -/
def define (d : Draft) (group : String) (definition : Definition) (h : Handler) :
    Draft × Except CommandError Command :=
  match definition.compile with
  | .ok c => d.register group c h
  | .error e => (d, .error e)

/-- What is reported about the registration of a definition. -/
def defineEvents (d : Draft) (group : String) (definition : Definition) : List Log.Event :=
  match definition.compile with
  | .ok c => d.registerEvents group c
  | .error _ => []

/-! ## Settings -/

/-- The loader for the settings of a draft that has none. -/
def loader (d : Draft) (s : Settings.System) : Settings.Loader :=
  let l := Settings.Loader.ofSystem s
  match d.settingsFile with
  | some path => { l with file := some path }
  | none => l.searchCurrent s

/-- The settings that the service will run with. -/
def settle (d : Draft) (s : Settings.System) : Except Settings.Error Settings :=
  match d.settings with
  | some settings =>
    match settings.check with
    | .ok () => .ok settings
    | .error e => .error (.unusable e)
  | none => (d.loader s).loadChecked s

/-- What is reported about the settings. -/
def settleEvents (d : Draft) (s : Settings.System) : List Log.Event :=
  match d.settings with
  | some _ => []
  | none => (d.loader s).events s

/-! ## Completion -/

/-- The draft with the built-in help command, if the settings want it. -/
def completed (d : Draft) (settings : Settings) : Except CommandError Draft :=
  if settings.help.enabled then
    match d.define Help.group Help.definition Help.handler with
    | (d, .ok _) => .ok d
    | (_, .error e) => .error e
  else .ok d

/-- What is reported once logging has been set up by the settings. -/
def completedEvents (d : Draft) (settings : Settings) : List Log.Event :=
  let help := if settings.help.enabled then d.defineEvents Help.group Help.definition else []
  let ready : List Log.Event :=
    match d.completed settings with
    | .ok d =>
      [{ level := .info
         target := "alloy_runtime::runtime"
         message := "Command runtime ready"
         fields :=
          [("groups", .number d.registry.groups.length), ("commands", .number d.registry.size),
            ("prefix", .shown settings.commands.sigil)] }]
    | .error _ => []
  help ++ ready

/-- The service of the draft with these settings. -/
def buildWith (d : Draft) (settings : Settings) : Except ServiceError Service :=
  match d.completed settings with
  | .ok d => .ok { settings, registry := d.registry, handlers := d.handlers }
  | .error e => .error (.command e)

/-- The service of the draft. -/
def build (d : Draft) (s : Settings.System) : Except ServiceError Service :=
  match d.settle s with
  | .ok settings => d.buildWith settings
  | .error e => .error (.settings e)

/-- What is reported about building the service. -/
def buildEvents (d : Draft) (s : Settings.System) : List Log.Event :=
  d.settleEvents s ++
    match d.settle s with
    | .ok settings => d.completedEvents settings
    | .error _ => []

end Draft

end ChatCommand
