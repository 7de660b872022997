import ChatCommand.Path

/-!
# The disk

The files that settings can come from, as a function of absolute paths. `Disk.entry?` follows a
written path from the current directory and fails like the file system where a step does not lead
anywhere. Files hold text and can be read: what happens with a file that may not be read, or whose
bytes are no UTF-8, is left out.
-/

namespace ChatCommand.Settings

/-- What a path leads to. -/
inductive Entry where
  /-- A file that can be read and holds this text. -/
  | file (content : String)
  | directory
deriving DecidableEq, Repr

/-- All directories and files that matter, and the directory to start from. -/
structure Disk where
  /-- The parts of the absolute path of the current directory. -/
  current : List String
  /-- What the absolute path of these parts leads to. -/
  lookup : List String → Option Entry

namespace Disk

/-- Follows the parts of a path from a directory. -/
def follow (d : Disk) : (place : List String) → List String → Option (List String)
  | place, [] => some place
  | place, p :: ps =>
    match d.lookup place with
    | some .directory => follow d (if p == ".." then place.dropLast else place ++ [p]) ps
    | _ => none

/-- What a written path leads to. -/
def entry? (d : Disk) (path : String) : Option Entry := do
  if path.isEmpty then none
  else
    let place ← d.follow (if Path.isAbsolute path then [] else d.current) (Path.parts path)
    match d.lookup place with
    | some (.file content) => if Path.namesDirectory path then none else some (.file content)
    | e => e

/-- The path leads somewhere. -/
def exists? (d : Disk) (path : String) : Bool :=
  (d.entry? path).isSome

/-- The current directory as a path. -/
def currentPath (d : Disk) : String :=
  Path.absolute d.current

/-- The content of the file at a path. A relative path is tried from the current directory and then
from the directories around it; directories of that name do not count. -/
def read? (d : Disk) (path : String) : Option (String × String) :=
  if Path.isAbsolute path then
    match d.entry? path with
    | some (.file content) => some (path, content)
    | _ => none
  else (List.range (d.current.length + 1)).reverse.findSome? fun n =>
    let path := Path.join (Path.absolute (d.current.take n)) path
    match d.entry? path with
    | some (.file content) => some (path, content)
    | _ => none

/-- The steps from one place to another, where they share a beginning. -/
def steps : (place target : List String) → List String
  | p :: ps, t :: ts => if p == t then steps ps ts else (p :: ps).map (fun _ => "..") ++ (t :: ts)
  | ps, ts => ps.map (fun _ => "..") ++ ts

/-- An absolute path as seen from the current directory, where that is shorter. -/
def relative (d : Disk) (path : String) : String :=
  let target := Path.parts path
  let seen := steps d.current target
  if seen.length ≤ target.length then "/".intercalate seen else path

end Disk

end ChatCommand.Settings
