import ChatCommand.Settings.Tree

/-!
# TOML tables

A document builds its tables piece by piece: by headers, by headers of arrays of tables and by
dotted keys. `Build` keeps for every table how it came about, since that decides which of its parts
may still be added and by what.
-/

namespace ChatCommand.Settings.Toml

mutual

/-- What stands under a key while a document is being read. -/
inductive Item where
  | value (d : Data)
  | table (t : Table)
  /-- An array of tables, the last one first. -/
  | tables (ts : List Table)

/-- A table that is being built. -/
inductive Table where
  /-- `implied` tables have only been passed through, `dotted` ones were made by dotted keys. -/
  | mk (implied dotted : Bool) (entries : List (String × Item))

end

namespace Table

/-- The table has only been passed through so far. -/
def implied : Table → Bool
  | mk i _ _ => i

/-- The table was made by a dotted key. -/
def dotted : Table → Bool
  | mk _ d _ => d

/-- The entries, in the order in which they came. -/
def entries : Table → List (String × Item)
  | mk _ _ es => es

/-- The empty table that a header makes. -/
def empty : Table := mk false false []

/-- What stands under a key. -/
def get? (t : Table) (k : String) : Option Item :=
  t.entries.lookup k

/-- The table with another item under a key. -/
def set (t : Table) (k : String) (i : Item) : Table :=
  if (t.get? k).isSome then
    mk t.implied t.dotted (t.entries.map fun e => if e.1 == k then (k, i) else e)
  else mk t.implied t.dotted (t.entries ++ [(k, i)])

/-- The table without a key. -/
def erase (t : Table) (k : String) : Table :=
  mk t.implied t.dotted (t.entries.filter (·.1 != k))

/-- Changes the table at the end of a path. Tables on the way are made where they are missing, by
dotted keys or not; dotted keys may only pass through tables that no header has defined. -/
def modifyAt (dotted : Bool) (f : Table → Option Table) : List String → Table → Option Table
  | [], t => f t
  | k :: ks, t =>
    match t.get? k with
    | none => do
      let c ← modifyAt dotted f ks (mk true dotted [])
      pure (t.set k (.table c))
    | some (.table c) =>
      if dotted && !c.implied then none
      else do
        let c ← modifyAt dotted f ks c
        pure (t.set k (.table c))
    | some (.tables (c :: cs)) => do
      let c ← modifyAt dotted f ks c
      pure (t.set k (.tables (c :: cs)))
    | some (.tables []) | some (.value _) => none

/-- The table with a value under a dotted key, given by its steps and its last part. -/
def addValue (t : Table) (path : List String) (key : String) (d : Data) : Option Table :=
  t.modifyAt true
    (fun t =>
      if t.dotted == path.isEmpty || (t.get? key).isSome then none
      else some (t.set key (.value d)))
    path

mutual

/-- The finished item. -/
def itemData : Item → Data
  | .value d => d
  | .table t => toData t
  | .tables ts => .list (tablesData ts).reverse

/-- The finished table. -/
def toData : Table → Data
  | .mk _ _ es => .table (entriesData es)

/-- The finished entries. -/
def entriesData : List (String × Item) → List (String × Data)
  | [] => []
  | (k, i) :: es => (k, itemData i) :: entriesData es

/-- The finished tables. -/
def tablesData : List Table → List Data
  | [] => []
  | t :: ts => toData t :: tablesData ts

end

end Table

/-- A document that is being read. -/
structure Build where
  root : Table := .empty
  /-- The table that the last header started, and its path; it is not in the root. -/
  current : Table := .empty
  path : List String := []
  /-- The last header was one of an array of tables. -/
  inArray : Bool := false

namespace Build

/-- Changes the entry at the end of a non-empty path, as headers do. -/
def modifyEntry (root : Table) (path : List String) (f : Option Item → Option (Option Item)) :
    Option Table :=
  let key := path.getLastD ""
  root.modifyAt false
    (fun t =>
      match f (t.get? key) with
      | none => none
      | some none => some (t.erase key)
      | some (some i) => some (t.set key i))
    path.dropLast

/-- The root once the current table has been put in its place. -/
def finish (b : Build) : Option Table :=
  if b.path.isEmpty then some b.current
  else
    modifyEntry b.root b.path fun i =>
      match b.inArray, i with
      | true, none => some (some (.tables [b.current]))
      | true, some (.tables ts) => some (some (.tables (b.current :: ts)))
      | true, some _ => none
      | false, none => some (some (.table b.current))
      | false, some (.table t) => if t.implied then some (some (.table b.current)) else none
      | false, some _ => none

/-- Starts the table of a header. Only a table that has been passed through may be there already. -/
def startTable (b : Build) (path : List String) : Option Build := do
  let root ← b.finish
  let known := (root.modifyAt false some path.dropLast).bind fun root =>
    lookupIn root path.dropLast (path.getLastD "")
  let current ← match known with
    | none => some .empty
    | some (.table t) =>
      if t.implied && !t.dotted then some (.mk false false t.entries) else none
    | some _ => none
  let root ← modifyEntry root path fun _ => some none
  pure { root, current, path }
where
  /-- What stands under a key of the table at the end of a path. -/
  lookupIn (t : Table) (path : List String) (key : String) : Option Item :=
    match path with
    | [] => t.get? key
    | k :: ks =>
      match t.get? k with
      | some (.table t) => lookupIn t ks key
      | some (.tables (t :: _)) => lookupIn t ks key
      | _ => none

/-- Starts a table of an array of tables. -/
def startArrayTable (b : Build) (path : List String) : Option Build := do
  let root ← b.finish
  let root ← modifyEntry root path fun
    | none => some (some (.tables []))
    | some (.tables ts) => some (some (.tables ts))
    | some _ => none
  pure { root, path, inArray := true }

/-- Adds a value to the current table. -/
def addValue (b : Build) (path : List String) (key : String) (d : Data) : Option Build := do
  let current ← b.current.addValue path key d
  pure { b with current }

end Build

end ChatCommand.Settings.Toml
