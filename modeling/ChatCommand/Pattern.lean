import ChatCommand.Regex.Syntax

/-!
# Pattern trees

A matcher is described by a tree and never put together from text by hand. `Pattern.source` writes
the tree in pattern syntax: literals are escaped, and every part that could run into its neighbour
is fenced in a group.
-/

namespace ChatCommand

/-- A tree that describes a pattern. -/
inductive Pattern where
  /-- The text itself. -/
  | literal (text : String)
  /-- A fragment in pattern syntax, used as it is. -/
  | raw (source : String)
  /-- One blank. -/
  | blank
  /-- What `inner` matches, noted under `name`. -/
  | capture (name : String) (inner : Pattern)
  /-- `inner` or nothing. -/
  | optional (inner : Pattern)
  /-- One of the alternatives, earlier ones preferred. -/
  | choice (alternatives : List Pattern)
  /-- All parts, one after another. -/
  | sequence (parts : List Pattern)
  /-- The end of the text. -/
  | textEnd
deriving Inhabited, Repr

namespace Pattern

/-- A character that means something in pattern syntax. -/
def isMeta (c : Char) : Bool :=
  ['\\', '.', '+', '*', '?', '(', ')', '|', '[', ']', '\x7b', '\x7d', '^', '$', '#', '&', '-',
    '~'].contains c

/-- The characters in pattern syntax that match exactly `cs`. -/
def escape (cs : List Char) : List Char :=
  cs.flatMap fun c => if isMeta c then ['\\', c] else [c]

/-- The characters in a group that captures nothing. -/
def fence (cs : List Char) : List Char :=
  ['(', '?', ':'] ++ cs ++ [')']

mutual

/-- The pattern syntax of a tree, as characters. -/
def chars : Pattern → List Char
  | literal text => escape text.toList
  | raw source => fence source.toList
  | blank => ['\\', 's']
  | capture name inner =>
    ['(', '?', 'P', '<'] ++ name.toList ++ ['>'] ++ chars inner ++ [')']
  | optional inner => fence (chars inner) ++ ['?']
  /- No place is a word border and none at once, so nothing matches. -/
  | choice [] => ['\\', 'b', '\\', 'B']
  | choice (a :: as) => fence (chars a ++ charsBehindBar as)
  | sequence parts => charsAll parts
  | textEnd => ['\\', 'z']

/-- The pattern syntax of the further alternatives. -/
def charsBehindBar : List Pattern → List Char
  | [] => []
  | p :: ps => '|' :: chars p ++ charsBehindBar ps

/-- The pattern syntax of trees one after another. -/
def charsAll : List Pattern → List Char
  | [] => []
  | p :: ps => chars p ++ charsAll ps

end

/-- The pattern syntax of a tree. -/
def source (p : Pattern) : String :=
  String.ofList p.chars

/-- The expression that a tree describes, if it takes no more room than `limit`. -/
def compile (p : Pattern) (limit : Nat := Regex.roomLimit) : Except PatternError Regex :=
  Regex.parseChars p.chars limit

end Pattern

end ChatCommand
