import ChatCommand.Number.Binary64
import ChatCommand.Settings.Error

/-!
# Settings trees

`Data` is what a settings document holds, whatever its format. A `Node` is the same with the origin
of every part, so that sources can be merged and a misfit can still name the source to blame. The
entries of a table are sorted by key, and `Node.merge` lets the later source win.
-/

namespace ChatCommand.Settings

/-- A value without parts. -/
inductive Scalar where
  | null
  | bool (b : Bool)
  /-- A number from a notation that knows natural numbers. -/
  | natural (n : Nat)
  | integer (i : Int)
  | float (x : Number.Binary64)
  /-- A single character, which counts as a text but not as a name. -/
  | char (c : Char)
  | text (s : String)
deriving DecidableEq, Repr

/-- What a document holds. -/
inductive Data where
  | scalar (s : Scalar)
  | list (items : List Data)
  | table (entries : List (String × Data))
deriving Inhabited, Repr

/-- What a document holds, each part with its origin. -/
inductive Node where
  | scalar (origin : Origin) (s : Scalar)
  | list (origin : Origin) (items : List Node)
  | table (origin : Origin) (entries : List (String × Node))
deriving Repr

/-- A table as a function of its keys, the keys sorted. -/
abbrev Entries (α : Type) := List (String × α)

/-- The entries with one more, or with another value for a key that is there. -/
def Entries.insert {α : Type} (key : String) (value : α) : Entries α → Entries α
  | [] => [(key, value)]
  | (k, v) :: es =>
    if key < k then (key, value) :: (k, v) :: es
    else if key = k then (key, value) :: es
    else (k, v) :: Entries.insert key value es

/-- The value for a key. -/
def Entries.get? {α : Type} (es : Entries α) (key : String) : Option α :=
  List.lookup key es

namespace Data

mutual

/-- The data as a node of one origin. -/
def toNode (origin : Origin) : Data → Node
  | scalar s => .scalar origin s
  | list items => .list origin (listToNodes origin items)
  | table entries => .table origin (entriesToNodes origin entries)

/-- The items as nodes of one origin. -/
def listToNodes (origin : Origin) : List Data → List Node
  | [] => []
  | d :: ds => toNode origin d :: listToNodes origin ds

/-- The entries as nodes of one origin, sorted. -/
def entriesToNodes (origin : Origin) : List (String × Data) → Entries Node
  | [] => []
  | (k, d) :: es =>
    let rest := entriesToNodes origin es
    if (rest.get? k).isSome then rest else rest.insert k (toNode origin d)

end

end Data

namespace Node

/-- Where the node was written. -/
def origin : Node → Origin
  | scalar o _ | list o _ | table o _ => o

mutual

/-- The node once a later source has been merged into it: tables entry by entry, all else
replaced. -/
def merge (earlier : Node) : Node → Node
  | table o later =>
    match earlier with
    | table _ es => table o (mergeEntries es later)
    | _ => table o later
  | later => later

/-- The entries once those of a later source have been merged into them. -/
def mergeEntries (earlier : Entries Node) : List (String × Node) → Entries Node
  | [] => earlier
  | (k, n) :: later =>
    let merged := mergeEntries earlier later
    merged.insert k (match earlier.get? k with
      | some e => merge e n
      | none => n)

end

/-- The node in words. -/
def describe : Node → String
  | scalar _ .null => "unit"
  | scalar _ (.bool b) => if b then "bool true" else "bool false"
  | scalar _ (.natural n) => "unsigned int `" ++ toString n ++ "`"
  | scalar _ (.integer i) => "signed int `" ++ toString i ++ "`"
  | scalar _ (.float x) => "float `" ++ x.text ++ "`"
  | scalar _ (.char c) => "string " ++ Text.quoted (String.singleton c)
  | scalar _ (.text s) => "string " ++ Text.quoted s
  | list _ _ => "sequence"
  | table _ _ => "map"

end Node

end ChatCommand.Settings
