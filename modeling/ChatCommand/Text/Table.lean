/-!
# Character tables

A property of characters is kept as the sorted list of code points at which it changes, starting
from "does not hold". A character has the property iff an odd number of changes is at or before it.

The tables of the library are those of Unicode 16.0. Long ones are written in packed form, see
`Table.packed`; unions and differences of tables are tables again.
-/

namespace ChatCommand.Text

/-- The code points at which a property of characters changes, in increasing order. -/
structure Table where
  boundaries : Array Nat
deriving DecidableEq, Repr

namespace Table

/-- The number of boundaries at or before `n`, given that it lies between `lo` and `hi`. -/
def rankFrom (t : Table) (n lo hi : Nat) : Nat :=
  if lo < hi then
    let mid := (lo + hi) / 2
    if t.boundaries.getD mid 0 ≤ n then rankFrom t n (mid + 1) hi else rankFrom t n lo mid
  else lo
termination_by hi - lo

/-- The number of boundaries at or before `n`. -/
def rank (t : Table) (n : Nat) : Nat :=
  t.rankFrom n 0 t.boundaries.size

/-- The character has the property. -/
def contains (t : Table) (c : Char) : Bool :=
  t.rank c.toNat % 2 == 1

/-! ## Packed tables -/

/-- The boundaries that `text` writes. Each is written as its distance from the one before, `point`:
leading digits in base 26 as capital letters, `lead` so far, then one digit or small letter in base
36 that ends the number. -/
def unpack (lead point : Nat) : (text : List Char) → List Nat
  | [] => []
  | c :: text =>
    if c.isUpper then unpack (lead * 26 + (c.toNat - 'A'.toNat)) point text
    else
      let last := if c.isDigit then c.toNat - '0'.toNat else c.toNat - 'a'.toNat + 10
      let next := point + lead * 36 + last
      next :: unpack 0 next text

/-- The table that a text writes. -/
def packed (text : String) : Table where
  boundaries := (unpack 0 0 text.toList).toArray

/-! ## Combined tables -/

/-- The points at which `op` of two properties changes. They change at `xs` and `ys`; before these
points, `a` and `b` say whether they hold. -/
def changes (op : Bool → Bool → Bool) (a b : Bool) (xs ys : List Nat) : List Nat :=
  match xs, ys with
  | [], [] => []
  | x :: xs, [] => note x (!a) b (changes op (!a) b xs [])
  | [], y :: ys => note y a (!b) (changes op a (!b) [] ys)
  | x :: xs, y :: ys =>
    if x < y then note x (!a) b (changes op (!a) b xs (y :: ys))
    else if y < x then note y a (!b) (changes op a (!b) (x :: xs) ys)
    else note x (!a) (!b) (changes op (!a) (!b) xs ys)
where
  /-- The point `n`, behind which `a'` and `b'` hold, in front of others if `op` changes there. -/
  note (n : Nat) (a' b' : Bool) (later : List Nat) : List Nat :=
    if op a' b' != op a b then n :: later else later

/-- The characters for which `op` holds of the memberships in two tables. -/
def combine (op : Bool → Bool → Bool) (s t : Table) : Table where
  boundaries := (changes op false false s.boundaries.toList t.boundaries.toList).toArray

instance : Union Table where
  union := combine fun a b => a || b

instance : SDiff Table where
  sdiff := combine fun a b => a && !b

/-- No character. -/
def none : Table where
  boundaries := #[]

/-- Every character. -/
def all : Table where
  boundaries := #[0]

/-- The characters of one of the tables. -/
def unions (ts : List Table) : Table :=
  ts.foldl (· ∪ ·) none

end Table

/-- A table with the names that it goes by, in the form that `looseName` gives them. -/
structure NamedTable where
  names : List String
  table : Table

/-- The first table of that name. -/
def NamedTable.find? (ts : List NamedTable) (name : String) : Option Table :=
  (ts.find? (·.names.contains name)).map (·.table)

end ChatCommand.Text
