import ChatCommand.Text.Blank
import ChatCommand.Text.Case
import ChatCommand.Text.Digit
import ChatCommand.Text.Word

/-!
# Character sets

The sets of characters that one position of a pattern accepts, as terms over ranges, the named
classes and the tables of properties. `CharSet.mem` decides membership; every operation of the
bracket notation is one constructor.
-/

namespace ChatCommand

/-- A set of characters. -/
inductive CharSet where
  | empty
  | range (first last : Char)
  | word
  | decimal
  | blank
  /-- The characters of a table. -/
  | table (t : Text.Table)
  | union (a b : CharSet)
  | inter (a b : CharSet)
  | diff (a b : CharSet)
  | symmDiff (a b : CharSet)
  | compl (a : CharSet)
  /-- The set closed under change of case. -/
  | folded (a : CharSet)
deriving DecidableEq, Repr

namespace CharSet

/-- The character belongs to the set. -/
def mem (c : Char) : CharSet → Bool
  | empty => false
  | range first last => first ≤ c && c ≤ last
  | word => Text.isWord c
  | decimal => Text.isDecimal c
  | blank => Text.isBlank c
  | table t => t.contains c
  | union a b => a.mem c || b.mem c
  | inter a b => a.mem c && b.mem c
  | diff a b => a.mem c && !b.mem c
  | symmDiff a b => a.mem c != b.mem c
  | compl a => !a.mem c
  | folded a => a.mem c || (Text.caseOrbit c).any (a.mem ·)

/-- The set of one character. -/
def single (c : Char) : CharSet := range c c

/-- The set of the listed characters. -/
def ofList (cs : List Char) : CharSet :=
  cs.foldr (fun c s => union (single c) s) empty

/-- All characters. -/
def any : CharSet := compl empty

/-- Characters of the ASCII range. -/
def ascii : CharSet := range '\x00' '\x7f'

/-- ASCII digits. -/
def asciiDigit : CharSet := range '0' '9'

/-- ASCII letters. -/
def asciiLetter : CharSet := union (range 'a' 'z') (range 'A' 'Z')

/-- ASCII word characters. -/
def asciiWord : CharSet := union (union asciiLetter asciiDigit) (single '_')

/-- ASCII white space. -/
def asciiBlank : CharSet := union (range '\t' '\r') (single ' ')

/-- The named classes of the form `[:name:]`. -/
def named? : String → Option CharSet
  | "alnum" => some (union asciiLetter asciiDigit)
  | "alpha" => some asciiLetter
  | "ascii" => some ascii
  | "blank" => some (union (single '\t') (single ' '))
  | "cntrl" => some (union (range '\x00' '\x1f') (single '\x7f'))
  | "digit" => some asciiDigit
  | "graph" => some (range '!' '~')
  | "lower" => some (range 'a' 'z')
  | "print" => some (range ' ' '~')
  | "punct" => some (union (union (range '!' '/') (range ':' '@'))
      (union (range '[' (Char.ofNat 96)) (range '\x7b' '~')))
  | "space" => some asciiBlank
  | "upper" => some (range 'A' 'Z')
  | "word" => some asciiWord
  | "xdigit" => some (union asciiDigit (union (range 'a' 'f') (range 'A' 'F')))
  | _ => none

end CharSet

end ChatCommand
