import ChatCommand.Bot.Session
import Std.Time.Format

/-!
# The bot on the console

Reads the command line, the environment and the settings files, then answers the lines of the
standard input until it ends. All that is decided is decided in `ChatCommand.Bot`.
-/

namespace ChatCommand.Bot

/-- The absolute place of a written path, seen from a directory. -/
def placeFrom (current : List String) (path : String) : List String :=
  (Path.parts path).foldl
    (fun place part => if part == ".." then place.dropLast else place ++ [part])
    (if Path.isAbsolute path then [] else current)

/-- The variables of the environment. -/
def readEnvironment : IO Settings.Environment := do
  let text ← try IO.FS.readFile "/proc/self/environ" catch _ => pure ""
  let vars := (text.splitOn "\x00").filter (· != "")
  return vars.map fun v =>
    let cs := v.toList
    (String.ofList (cs.takeWhile (· != '=')), String.ofList ((cs.dropWhile (· != '=')).drop 1))

/-- What an absolute place leads to. -/
def readEntry (place : List String) : IO (Option Settings.Entry) := do
  try
    return some (.file (← IO.FS.readFile (Path.absolute place)))
  catch
    | .inappropriateType .. => return some .directory
    | _ => return none

/-- The system, with all files that settings may be loaded from. -/
def readSystem (options : Options) : IO Settings.System := do
  let environment ← readEnvironment
  let current := Path.parts (← IO.currentDir).toString
  let home := (environment.lookup "HOME").map (Path.join · ".config")
  let userDirectory := match environment.lookup "XDG_CONFIG_HOME" with
    | some path => if Path.isAbsolute path then some path else home
    | none => home
  let bare : Settings.System :=
    { disk := { current, lookup := fun _ => none }, environment, userDirectory }
  let around := (List.range (current.length + 1)).map current.take
  let places := (options.draft.loader bare).filePaths bare |>.flatMap fun path =>
    around.map (placeFrom · path)
  let entries ← places.mapM fun place => do return (place, ← readEntry place)
  let known := entries.filterMap fun (place, entry?) => entry?.map (place, ·)
  let lookup (place : List String) : Option Settings.Entry :=
    (known.lookup place).or <|
      if around.contains place || known.any (place.isPrefixOf ·.1) then some .directory else none
  return { bare with disk := { current, lookup } }

/-- What lines say about this moment. Spans are not timed. -/
def readStamp : IO Log.Stamp := do
  let now := Std.Time.PlainDateTime.ofWallTime
    (Std.Time.WallTime.ofTimestamp (← Std.Time.Timestamp.now) Std.Time.TimeZone.UTC.offset)
  return {
    time := now.format "uuuu-MM-dd'T'HH:mm:ss.SSSSSS'Z'"
    thread := "ThreadId(01)"
    location := "-"
    busy := "-"
    idle := "-" }

/-- Writes to the end of a file, which is created together with its directory if need be. -/
def append (path text : String) : IO Unit := do
  let directory := "/".intercalate (path.splitOn "/").dropLast
  if directory != "" then IO.FS.createDirAll directory
  let file ← IO.FS.Handle.mk path .append
  file.putStr text

/-- Prints a line where it belongs. -/
def print (p : Printed) : IO Unit :=
  match p.destination with
  | .stdout => IO.println p.text
  | .stderr => IO.eprintln p.text
  | .file path => append path (p.text ++ "\n")

/-- Answers lines until the input ends. -/
partial def answerAll (s : Session) (input : IO.FS.Stream) : IO Unit := do
  let line ← input.getLine
  if line.isEmpty then return
  (s.answer (← readStamp) line).forM print
  answerAll s input

/-- Runs the bot. -/
def runOn (args : List String) : IO UInt32 := do
  let options := (({} : Options).read args).toOption.getD {}
  let (opening, next) := start args (← readSystem options) (← readStamp)
  opening.forM print
  match next with
  | .error code => return code.toUInt32
  | .ok session =>
    match session.logger.destination with
    | .file path => append path ""
    | _ => pure ()
    answerAll session (← IO.getStdin)
    return 0

end ChatCommand.Bot

/-- The entry point of the program. -/
def main (args : List String) : IO UInt32 :=
  ChatCommand.Bot.runOn args
