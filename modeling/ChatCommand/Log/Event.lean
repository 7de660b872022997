/-!
# Log events

What the library reports about its own work: events with a level, a target and fields, and spans
around the handling of one message.
-/

namespace ChatCommand.Log

/-- How severe an event is, from the least to the most. -/
inductive Level where
  | trace
  | debug
  | info
  | warn
  | error
deriving DecidableEq, Repr

namespace Level

/-- All levels, the least severe first. -/
def all : List Level := [trace, debug, info, warn, error]

/-- The place among the levels; a higher one is more severe. -/
def severity : Level → Nat
  | trace => 0
  | debug => 1
  | info => 2
  | warn => 3
  | error => 4

/-- The name of a level in settings and directives. -/
def name : Level → String
  | trace => "trace"
  | debug => "debug"
  | info => "info"
  | warn => "warn"
  | error => "error"

/-- The name of a level in log lines. -/
def label : Level → String
  | trace => "TRACE"
  | debug => "DEBUG"
  | info => "INFO"
  | warn => "WARN"
  | error => "ERROR"

end Level

/-- The value of a field. -/
inductive Value where
  /-- A text that lines show as it is. -/
  | shown (text : String)
  /-- A text that lines show in quotes. -/
  | quoted (text : String)
  | number (n : Nat)
deriving DecidableEq, Repr

/-- Something that happened. -/
structure Event where
  level : Level
  /-- The part of the program that reports it. -/
  target : String
  message : String
  fields : List (String × Value) := []
deriving DecidableEq, Repr

/-- A stretch of work that events can happen in. -/
structure Span where
  level : Level
  target : String
  name : String
  fields : List (String × Value) := []
deriving DecidableEq, Repr

/-- One step of what is reported. -/
inductive Step where
  | event (e : Event)
  | opened (s : Span)
  | entered (s : Span)
  | left (s : Span)
  | closed (s : Span)
deriving DecidableEq, Repr

/-- Events within a span. The span is entered once more when its work is cleaned up. -/
def Span.around (s : Span) (events : List Event) : List Step :=
  [.opened s, .entered s] ++ events.map .event ++
    [.left s, .entered s, .left s, .closed s]

end ChatCommand.Log
