import ChatCommand.Settings.Schema
import ChatCommand.Settings.Tree

/-!
# Settings as trees

`Settings.encode` writes every setting into a tree, whose parts all come from the program itself.
-/

namespace ChatCommand

open Settings (Data Scalar)

/-- A text as data. -/
def Settings.textData (s : String) : Data := .scalar (.text s)

/-- A truth value as data. -/
def Settings.boolData (b : Bool) : Data := .scalar (.bool b)

open Settings (textData boolData)

/-- The settings of commands as data. -/
def CommandSettings.toData (c : CommandSettings) : Data :=
  .table [("prefix", textData c.sigil), ("operators", .list (c.operators.map textData))]

/-- The settings of the help command as data. -/
def HelpSettings.toData (h : HelpSettings) : Data :=
  .table [("enabled", boolData h.enabled), ("response", textData h.response.name)]

/-- The events of spans as data. -/
def SpanEvents.toData (s : SpanEvents) : Data :=
  .table
    [("new", boolData s.new), ("enter", boolData s.enter), ("exit", boolData s.exit),
      ("close", boolData s.close)]

/-- The settings of logging as data. -/
def LogSettings.toData (l : LogSettings) : Data :=
  .table
    [("level", textData l.level.name), ("format", textData l.format.name),
      ("output", textData l.output.name),
      ("file_path", (l.filePath.map textData).getD (.scalar .null)),
      ("thread_ids", boolData l.threadIds), ("file_location", boolData l.fileLocation),
      ("span_events", l.spanEvents.toData),
      ("filters", .table (l.filters.map fun (k, v) => (k, textData v.name)))]

/-- All settings as data. -/
def Settings.toData (s : Settings) : Data :=
  .table
    [("commands", s.commands.toData), ("help", s.help.toData), ("logging", s.logging.toData)]

/-- All settings as a tree that the program wrote. -/
def Settings.encode (s : Settings) : Settings.Node :=
  s.toData.toNode .program

end ChatCommand
