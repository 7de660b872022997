import ChatCommand.Regex.CharSet

/-!
# Regular expressions

`Regex` is the tree that a pattern denotes. Alternatives are ordered, the first one preferred, and
all repetition is built from `plus`, so that only one constructor loops.
-/

namespace ChatCommand

/-- Which borders between word and other characters an assertion accepts. -/
inductive WordEdge where
  | either
  | neither
  | start
  | stop
  | startHalf
  | stopHalf
deriving DecidableEq, Repr

/-- The edge accepts a place with a word character before it, and after it, as given. -/
def WordEdge.holds (e : WordEdge) (before after : Bool) : Bool :=
  match e with
  | either => before != after
  | neither => before == after
  | start => !before && after
  | stop => before && !after
  | startHalf => !before
  | stopHalf => !after

/-- An assertion about a place in the text; it consumes nothing. -/
inductive Anchor where
  | textStart
  | textEnd
  | lineStart
  | lineEnd
  /-- Line borders where a carriage return ends a line too, but not one right before a line feed. -/
  | returnLineStart
  | returnLineEnd
  | edge (kind : WordEdge) (inWord : CharSet)
deriving DecidableEq, Repr

/-- The assertion holds between the characters `before` and `after`, none at the ends of the
text. -/
def Anchor.holds (a : Anchor) (before after : Option Char) : Bool :=
  match a with
  | textStart => before.isNone
  | textEnd => after.isNone
  | lineStart => before.isNone || before == some '\n'
  | lineEnd => after.isNone || after == some '\n'
  | returnLineStart =>
    before.isNone || before == some '\n' || (before == some '\r' && after != some '\n')
  | returnLineEnd =>
    after.isNone || after == some '\r' || (after == some '\n' && before != some '\r')
  | edge kind inWord => kind.holds (before.any (inWord.mem ·)) (after.any (inWord.mem ·))

/-- A regular expression. -/
inductive Regex where
  /-- Matches the empty text. -/
  | empty
  /-- Matches one character of the set. -/
  | char (set : CharSet)
  /-- Matches the empty text where the assertion holds. -/
  | look (anchor : Anchor)
  /-- Matches what `r` matches and notes it under `name`. -/
  | capture (name : String) (r : Regex)
  /-- Matches what `r` matches and behind it what `s` matches. The number of parts, `size`, has no
  meaning of its own: a comparison looks at it first, so long sequences are told apart at once. -/
  | seq (size : Nat) (r s : Regex)
  /-- Matches what `r` or `s` matches, preferring `r`. -/
  | alt (r s : Regex)
  /-- One or more times `r`; as often as possible if `greedy`, else as seldom as possible. -/
  | plus (greedy : Bool) (r : Regex)
deriving DecidableEq, Repr

namespace Regex

/-- All of `rs`, one after another. -/
def seqAll : List Regex → Regex
  | [] => empty
  | [r] => r
  | r :: rs => seq rs.length r (seqAll rs)

/-- One of `rs`, earlier ones preferred. -/
def altAll : List Regex → Regex
  | [] => char .empty
  | [r] => r
  | r :: rs => alt r (altAll rs)

/-- `r` or nothing. -/
def opt (greedy : Bool) (r : Regex) : Regex :=
  if greedy then alt r empty else alt empty r

/-- Any number of times `r`. -/
def star (greedy : Bool) (r : Regex) : Regex :=
  opt greedy (plus greedy r)

/-- At most `n` times `r`. -/
def atMost (greedy : Bool) (r : Regex) : Nat → Regex
  | 0 => empty
  | 1 => opt greedy r
  | n + 1 => opt greedy (seq n r (atMost greedy r n))

/-- `r` at least `low` times and, if there is a bound, at most `high?` times. -/
def repeated (greedy : Bool) (r : Regex) (low : Nat) (high? : Option Nat) : Regex :=
  match high?, low with
  | some high, low =>
    if low = 0 then atMost greedy r high
    else if high ≤ low then seqAll (List.replicate low r)
    else seqAll (List.replicate low r ++ [atMost greedy r (high - low)])
  | none, 0 => star greedy r
  | none, low + 1 => seqAll (List.replicate low r ++ [plus greedy r])

/-- The names of the captures, in the order in which they open. -/
def captureNames : Regex → List String
  | empty | char _ | look _ => []
  | capture name r => name :: (captureNames r).filter (· != name)
  | seq _ r s | alt r s =>
    let names := captureNames r
    names ++ (captureNames s).filter (!names.contains ·)
  | plus _ r => captureNames r

/-- The length of the shortest text that the expression could match. -/
def minLength : Regex → Nat
  | empty | look _ => 0
  | char _ => 1
  | capture _ r | plus _ r => minLength r
  | seq _ r s => minLength r + minLength s
  | alt r s => min (minLength r) (minLength s)

end Regex

end ChatCommand
