import ChatCommand.Log.Filter
import ChatCommand.Log.Line

/-!
# Loggers

A logger turns what is reported into lines: it drops what its filter does not admit, and shows the
life of spans as far as it is asked to.
-/

namespace ChatCommand.Log

/-- Where lines go. -/
inductive Destination where
  | stdout
  | stderr
  /-- To the end of the file at this path. -/
  | file (path : String)
deriving DecidableEq, Repr

/-- What is logged, how, and where. -/
structure Logger where
  filter : Filter
  layout : Layout
  spanEvents : SpanEvents
  destination : Destination

namespace Logger

/-- The lines for an event in the life of the innermost of these spans, if it is asked for. -/
def lifeLines (l : Logger) (stamp : Stamp) (asked : Bool) (outer : List Span) (s : Span)
    (message : String) (fields : List (String × Value) := []) : List String :=
  if asked && l.filter.admitsSpan s then
    l.layout.lines stamp (outer ++ [s]) { level := s.level, target := s.target, message, fields }
  else []

/-- The lines for the steps, within the spans that have been entered. -/
def linesWithin (l : Logger) (stamp : Stamp) : (scope : List Span) → List Step → List String
  | _, [] => []
  | scope, .event e :: steps =>
    (if l.filter.admits scope e then l.layout.lines stamp scope e else []) ++
      linesWithin l stamp scope steps
  | scope, .opened s :: steps =>
    l.lifeLines stamp l.spanEvents.new scope s "new" ++ linesWithin l stamp scope steps
  | scope, .entered s :: steps =>
    l.lifeLines stamp l.spanEvents.enter scope s "enter" ++
      linesWithin l stamp (if l.filter.admitsSpan s then scope ++ [s] else scope) steps
  | scope, .left s :: steps =>
    let outer := if l.filter.admitsSpan s then scope.dropLast else scope
    l.lifeLines stamp l.spanEvents.exit outer s "exit" ++ linesWithin l stamp outer steps
  | scope, .closed s :: steps =>
    l.lifeLines stamp l.spanEvents.close scope s "close"
        [("time.busy", .shown stamp.busy), ("time.idle", .shown stamp.idle)] ++
      linesWithin l stamp scope steps

/-- The lines for the steps. -/
def lines (l : Logger) (stamp : Stamp) (steps : List Step) : List String :=
  l.linesWithin stamp [] steps

end Logger

end ChatCommand.Log
