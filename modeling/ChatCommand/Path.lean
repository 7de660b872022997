/-!
# Paths

Paths as they are written, with slashes between their parts. Empty parts and parts that stand for
the directory itself do not count.
-/

namespace ChatCommand.Path

/-- What stands between the slashes of a path. -/
def pieces (path : String) : List String :=
  (path.toList.splitOn '/').map String.ofList

/-- The parts of a path. -/
def parts (path : String) : List String :=
  (pieces path).filter fun p => p != "" && p != "."

/-- The path starts at the root. -/
def isAbsolute (path : String) : Bool :=
  path.toList.head? == some '/'

/-- The absolute path of parts. -/
def absolute (parts : List String) : String :=
  "/" ++ "/".intercalate parts

/-- The path of `name` within the directory `path`. -/
def join (path name : String) : String :=
  if isAbsolute name || path.isEmpty then name
  else if path.toList.getLast? == some '/' then path ++ name
  else path ++ "/" ++ name

/-- The path can lead to a directory only. -/
def namesDirectory (path : String) : Bool :=
  match (pieces path).reverse with
  | last :: _ :: _ => last == "" || last == "."
  | [last] => last == "."
  | [] => false

/-- The last part of a path, if it is a name. -/
def name? (path : String) : Option String :=
  match (parts path).getLast? with
  | some ".." | none => none
  | some name => some name

/-- What stands behind the last point of the last part of a path. A name that starts with its only
point has no ending. -/
def ending (path : String) : String :=
  match name? path with
  | none => ""
  | some name =>
    let cs := name.toList.reverse
    let ending := cs.takeWhile (· != '.')
    match cs.dropWhile (· != '.') with
    | '.' :: _ :: _ => String.ofList ending.reverse
    | _ => ""

end ChatCommand.Path
