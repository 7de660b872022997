import ChatCommand.Settings.Schema
import ChatCommand.Text.Quoted

/-!
# Log lines

The text of an event within spans, in one of several layouts.
-/

namespace ChatCommand.Log

/-- What lines say about the moment and the place of an event, but the event itself does not. -/
structure Stamp where
  time : String
  thread : String
  /-- The place in the program. -/
  location : String
  /-- How long a span was worked in. -/
  busy : String
  /-- How long a span was waiting. -/
  idle : String

/-- The parts of a line that can be chosen. -/
structure Layout where
  format : LogFormat := .compact
  target : Bool := true
  threads : Bool := false
  location : Bool := false
deriving DecidableEq, Repr

/-- The text of a value. -/
def Value.text : Value → String
  | shown s => s
  | quoted s => Text.quoted s
  | number n => toString n

/-- Fields in a line. -/
def fieldsText (fields : List (String × Value)) : String :=
  " ".intercalate (fields.map fun (name, v) => name ++ "=" ++ v.text)

/-- Fields in a layout that gives each event several lines. -/
def fieldsList (fields : List (String × Value)) : List String :=
  fields.map fun (name, v) => name ++ ": " ++ v.text

/-- The name of a level, as wide as the longest one. -/
def Level.column (l : Level) : String :=
  String.ofList (List.replicate (5 - l.label.length) ' ') ++ l.label

namespace Layout

/-- The part of the program and the place in it. -/
def origin (l : Layout) (s : Stamp) (e : Event) : List String :=
  (if l.target then [e.target ++ ":"] else []) ++ if l.location then [s.location ++ ":"] else []

/-- The time, the level and the thread. -/
def head (l : Layout) (s : Stamp) (e : Event) : List String :=
  [s.time, e.level.column] ++ if l.threads then [s.thread] else []

/-- The message and the fields. -/
def body (e : Event) : List String :=
  e.message :: e.fields.map fun (name, v) => name ++ "=" ++ v.text

/-- A line with the fields of spans at its end. -/
def compactLine (l : Layout) (s : Stamp) (scope : List Span) (e : Event) : String :=
  let spans := if scope.isEmpty then [] else [String.join (scope.map (·.name ++ ":"))]
  let ends := (scope.filter (!·.fields.isEmpty)).map (fieldsText ·.fields)
  " ".intercalate (l.head s e ++ spans ++ l.origin s e ++ body e ++ ends)

/-- A line with the fields of each span behind its name. -/
def fullLine (l : Layout) (s : Stamp) (scope : List Span) (e : Event) : String :=
  let name (p : Span) : String :=
    if p.fields.isEmpty then p.name ++ ":" else p.name ++ "\x7b" ++ fieldsText p.fields ++ "\x7d:"
  let spans := if scope.isEmpty then [] else [String.join (scope.map name)]
  " ".intercalate (l.head s e ++ spans ++ l.origin s e ++ body e)

/-- Lines for the event, for its place, and for each span, the innermost first. -/
def prettyLines (l : Layout) (s : Stamp) (scope : List Span) (e : Event) : List String :=
  let target := if l.target then e.target ++ ":" else ""
  let first := "  " ++ " ".intercalate [s.time, e.level.column, target,
    ", ".intercalate (e.message :: fieldsList e.fields)]
  let place :=
    (if l.location then ["at " ++ s.location] else []) ++
      if l.threads then ["on " ++ s.thread] else []
  let second := if place.isEmpty then [] else ["    " ++ " ".intercalate place]
  let spanLine (p : Span) : String :=
    "    in " ++ (if l.target then p.target ++ "::" else "") ++ p.name ++
      if p.fields.isEmpty then "" else " with " ++ ", ".intercalate (fieldsList p.fields)
  first :: second ++ scope.reverse.map spanLine ++ [""]

/-- The lines of an event within these spans, the outermost first. -/
def lines (l : Layout) (s : Stamp) (scope : List Span) (e : Event) : List String :=
  match l.format with
  | .compact | .json => [l.compactLine s scope e]
  | .full => [l.fullLine s scope e]
  | .pretty => l.prettyLines s scope e

end Layout

end ChatCommand.Log
