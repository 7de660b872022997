import ChatCommand.Settings.Schema
import ChatCommand.Settings.Tree

/-!
# Settings from trees

`Settings.decode` reads settings off a tree. Keys that are missing take their defaults, keys that
the schema does not know are passed over. A structure may also be written as the list of its fields,
and the name of an alternative also as the only key of a table. The first misfit, in the order of
the keys, is the answer.
-/

namespace ChatCommand.Settings

/-- A value that does not fit, with its place. -/
structure Fault where
  misfit : Misfit
  path : List String
  origin : Origin
deriving DecidableEq, Repr

/-- How closely trees are read. -/
inductive Strictness where
  /-- A list may hold more than the fields of a structure, a table more than a name. -/
  | lenient
  | strict
deriving DecidableEq, Repr

/-- A reader of values of type `α`: from a node at a place to a value. -/
abbrev Decoder (α : Type) := (path : List String) → Node → Except Fault α

/-- The node is no `expected`. -/
def mismatch {α : Type} (expected : String) : Decoder α := fun path n =>
  .error ⟨.type n.describe expected, path, n.origin⟩

namespace Decoder

/-- A truth value. -/
def bool : Decoder Bool := fun path n =>
  match n with
  | .scalar _ (.bool b) => .ok b
  | n => mismatch "a boolean" path n

/-- A text that is called `expected` in faults. -/
def textCalled (expected : String) : Decoder String := fun path n =>
  match n with
  | .scalar _ (.text s) => .ok s
  | .scalar _ (.char c) => .ok (String.singleton c)
  | n => mismatch expected path n

/-- A text. -/
def text : Decoder String := textCalled "a string"

/-- A path, or null for none. -/
def path? : Decoder (Option String) := fun path n =>
  match n with
  | .scalar _ .null => .ok none
  | n => (textCalled "path string" path n).map some

/-- A list whose items `item` reads. -/
def list {α : Type} (item : Decoder α) : Decoder (List α) := fun path n =>
  match n with
  | .list _ items => items.zipIdx.mapM fun (n, i) => item (path ++ [toString i]) n
  | n => mismatch "a sequence" path n

/-- A table whose values `value` reads. -/
def table {α : Type} (value : Decoder α) : Decoder (List (String × α)) := fun path n =>
  match n with
  | .table _ entries => entries.mapM fun (k, n) => (value (path ++ [k]) n).map (k, ·)
  | n => mismatch "a map" path n

/-- The value with that name. -/
def named {α : Type} (all : List α) (name : α → String) (s : String) (path : List String)
    (origin : Origin) : Except Fault α :=
  match all.find? (name · == s) with
  | some a => .ok a
  | none => .error ⟨.variant s (all.map name), path, origin⟩

/-- One of the values `all`, by its name; `typeName` is what the alternatives are together. -/
def alternative {α : Type} (strictness : Strictness) (typeName : String) (all : List α)
    (name : α → String) : Decoder α := fun path n =>
  match n with
  | .scalar o (.text s) => named all name s path o
  | .table o entries =>
    match entries, strictness with
    | [], _ => mismatch "enum" path (.table o [])
    | _ :: _ :: _, .strict => mismatch "map with a single key" path n
    | (k, v) :: _, _ => do
      let a ← named all name k (path ++ [k]) v.origin
      match v with
      | .scalar _ .null => .ok a
      | v => mismatch "unit" (path ++ [k]) v
  | n => mismatch ("enum " ++ typeName) path n

/-- The parts of a structure with the fields `names`, each with its field and its place. -/
def parts (strictness : Strictness) (typeName : String) (names : List String) :
    Decoder (List (String × List String × Node)) := fun path n =>
  match n with
  | .table _ entries => .ok (entries.map fun (k, n) => (k, path ++ [k], n))
  | .list _ items =>
    if strictness = .strict ∧ names.length < items.length then
      mismatch ("struct " ++ typeName) path n
    else
      .ok ((names.zip items).mapIdx fun i (k, n) => (k, path ++ [toString i], n))
  | n => mismatch ("struct " ++ typeName) path n

/-- A structure: `field` sets the field of that name in a value that starts from `default`. -/
def structured {α : Type} (strictness : Strictness) (typeName : String) (names : List String)
    (default : α) (field : α → String → Option (Decoder α)) : Decoder α := fun path n => do
  (← parts strictness typeName names path n).foldlM
    (fun a (k, path, n) =>
      match field a k with
      | some decoder => decoder path n
      | none => .ok a)
    default

/-- The decoder followed by a function. -/
def into {α β : Type} (d : Decoder α) (f : α → β) : Decoder β := fun path n =>
  (d path n).map f

end Decoder

/-! ## Fields that are missing

A structure that is there may leave out fields, and each field has a value for that case. Structures
that are missing as a whole are those of the schema.
-/

/-- How commands are written where no field says so. -/
def unsetCommands : CommandSettings where
  sigil := defaultSigil
  operators := []

/-- The help command where no field says anything. -/
def unsetHelp : HelpSettings where
  enabled := true
  response := default

/-- The events of spans where no field asks for any. -/
def unsetSpanEvents : SpanEvents where
  new := false
  enter := false
  exit := false
  close := false

/-- How the library logs where no field says so. -/
def unsetLogging : LogSettings where
  level := default
  format := default
  output := default
  filePath := none
  threadIds := false
  fileLocation := false
  spanEvents := {}
  filters := []

/-- All settings where no structure is there. -/
def unset : Settings where
  commands := {}
  help := {}
  logging := {}

/-! ## Structures -/

open Decoder

/-- Reads how commands are written. -/
def decodeCommands (k : Strictness) : Decoder CommandSettings :=
  structured k "CommandsConfig" ["prefix", "operators"] unsetCommands fun c key =>
    match key with
    | "prefix" => some (text.into fun sigil => { c with sigil })
    | "operators" => some ((list text).into fun operators => { c with operators })
    | _ => none

/-- Reads the settings of the help command. -/
def decodeHelp (k : Strictness) : Decoder HelpSettings :=
  structured k "HelpConfig" ["enabled", "response"] unsetHelp fun h key =>
    match key with
    | "enabled" => some (bool.into fun enabled => { h with enabled })
    | "response" =>
      some ((alternative k "HelpResponse" HelpResponse.all HelpResponse.name).into
        fun response => { h with response })
    | _ => none

/-- Reads which events of spans are logged. -/
def decodeSpanEvents (k : Strictness) : Decoder SpanEvents :=
  structured k "SpanEventConfig" ["new", "enter", "exit", "close"] unsetSpanEvents fun s key =>
    match key with
    | "new" => some (bool.into fun new => { s with new })
    | "enter" => some (bool.into fun enter => { s with enter })
    | "exit" => some (bool.into fun exit => { s with exit })
    | "close" => some (bool.into fun close => { s with close })
    | _ => none

/-- Reads a level. -/
def decodeLevel (k : Strictness) : Decoder Log.Level :=
  alternative k "LogLevel" Log.Level.all Log.Level.name

/-- Reads a layout of log lines. -/
def decodeFormat (k : Strictness) : Decoder LogFormat :=
  alternative k "LogFormat" LogFormat.all LogFormat.name

/-- Reads where log lines go. -/
def decodeOutput (k : Strictness) : Decoder LogOutput :=
  alternative k "LogOutput" LogOutput.all LogOutput.name

/-- Reads where help goes. -/
def decodeResponse (k : Strictness) : Decoder HelpResponse :=
  alternative k "HelpResponse" HelpResponse.all HelpResponse.name

/-- Reads how the library logs. -/
def decodeLogging (k : Strictness) : Decoder LogSettings :=
  structured k "LoggingConfig"
    ["level", "format", "output", "file_path", "thread_ids", "file_location", "span_events",
      "filters"] unsetLogging fun l key =>
    match key with
    | "level" => some ((decodeLevel k).into fun level => { l with level })
    | "format" => some ((decodeFormat k).into fun format => { l with format })
    | "output" => some ((decodeOutput k).into fun output => { l with output })
    | "file_path" => some (path?.into fun filePath => { l with filePath })
    | "thread_ids" => some (bool.into fun threadIds => { l with threadIds })
    | "file_location" => some (bool.into fun fileLocation => { l with fileLocation })
    | "span_events" => some ((decodeSpanEvents k).into fun spanEvents => { l with spanEvents })
    | "filters" => some ((table (decodeLevel k)).into fun filters => { l with filters })
    | _ => none

/-- Reads all settings. -/
def decode (k : Strictness) : Decoder Settings :=
  structured k "AlloyConfig" ["commands", "help", "logging"] unset fun s key =>
    match key with
    | "commands" => some ((decodeCommands k).into fun commands => { s with commands })
    | "help" => some ((decodeHelp k).into fun help => { s with help })
    | "logging" => some ((decodeLogging k).into fun logging => { s with logging })
    | _ => none

end ChatCommand.Settings
