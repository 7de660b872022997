import ChatCommand.Regex.Basic
import ChatCommand.Regex.Property

/-!
# Pattern syntax

`Regex.parse` reads a pattern, in the whole of the syntax. The reader is a machine that takes one
character at a time (`Reader.step`), so reading two texts one after the other is reading their
concatenation. Its state holds the open groups with what has been read of each, the flags in force,
and the `Mode`, which says what the next character continues.

Two things are not followed to the letter: why a text is no pattern is left out, and the room that a
compiled expression takes is an estimate (`Item.room`).
-/

namespace ChatCommand

/-- Why a pattern is refused. -/
inductive PatternError where
  /-- The text is no pattern. -/
  | malformed
  /-- The expression would take more room than a matcher may have. -/
  | tooLarge
deriving DecidableEq, Repr

/-- The room that the compiled form of an expression may take, in bytes. -/
def Regex.roomLimit : Nat := 10485760

/-- The error in words. For a text that is no pattern this is the title alone: the lines below it,
which show the text and what is wrong where, are left out. -/
def PatternError.message : PatternError → String
  | malformed => "regex parse error"
  | tooLarge => "Compiled regex exceeds size limit of " ++ toString Regex.roomLimit ++ " bytes."

namespace Regex

/-- The number of constructs that may enclose one another. -/
def nestLimit : Nat := 250

/-- Flags in force at a place of a pattern. -/
structure Flags where
  ignoreCase : Bool := false
  multiLine : Bool := false
  dotAll : Bool := false
  swapGreed : Bool := false
  carriageReturn : Bool := false
  unicode : Bool := true
  verbose : Bool := false
deriving DecidableEq, Repr

/-- The flags after the one written `letter` has been switched. -/
def Flags.switch? (f : Flags) (letter : Char) (on : Bool) : Option Flags :=
  match letter with
  | 'i' => some { f with ignoreCase := on }
  | 'm' => some { f with multiLine := on }
  | 's' => some { f with dotAll := on }
  | 'U' => some { f with swapGreed := on }
  | 'R' => some { f with carriageReturn := on }
  | 'u' => some { f with unicode := on }
  | 'x' => some { f with verbose := on }
  | _ => none

/-- One element of a sequence that is being read. -/
structure Item where
  /-- Builds the expression, which may be large. -/
  build : Unit → Regex
  /-- It can match nothing but the empty text. -/
  emptyOnly : Bool := false
  /-- How many constructs enclose one another in it. -/
  depth : Nat := 0
  /-- An estimate of the bytes that its compiled form takes. -/
  room : Nat := 0
  /-- A repetition can follow it; not so after a group of flags alone. -/
  repeatable : Bool := true

/-- The expression of an element. -/
def Item.regex (i : Item) : Regex := i.build ()

/-- The element that matches the empty text. -/
def Item.empty : Item :=
  { build := fun _ => .empty, emptyOnly := true }

/-- The room that the ranges of a set take. -/
def rangeRoom : CharSet → Nat
  | .empty => 0
  | .range _ last => if last.toNat < 128 then 8 else 20 + 32 * (last.utf8Size - 1)
  | .word => 50107
  | .decimal => 5061
  | .blank => 616
  | .table t => 31 * t.boundaries.size
  | .union a b | .inter a b | .diff a b | .symmDiff a b => rangeRoom a + rangeRoom b
  | .compl .word => 46539
  | .compl .decimal => 12692
  | .compl .blank => 1860
  | .compl a => rangeRoom a + 928
  | .folded a => rangeRoom a + min (rangeRoom a) 160

/-- The room that a set takes. -/
def setRoom : CharSet → Nat
  | .range first last =>
    if first = last then 32 * last.utf8Size else 64 + rangeRoom (.range first last)
  | s => 64 + rangeRoom s

/-- The element for one character of a set. -/
def Item.char (s : CharSet) : Item :=
  { build := fun _ => .char s, room := setRoom s }

/-- The element for an assertion. -/
def Item.look (a : Anchor) : Item :=
  { build := fun _ => .look a, emptyOnly := true, room := 32 }

/-- Elements one after another; the list holds the last one first. -/
def Item.sequence : List Item → Item
  | [] => .empty
  | [i] => i
  | items =>
    { build := fun _ => seqAll (items.reverse.map (·.regex))
      emptyOnly := items.all (·.emptyOnly)
      depth := 1 + items.foldl (fun d i => max d i.depth) 0
      room := items.foldl (fun n i => n + i.room) 0 }

/-- The element that is one of several; the list holds the last one first. -/
def Item.choice : List Item → Item
  | [] => .empty
  | [i] => i
  | items =>
    { build := fun _ => altAll (items.reverse.map (·.regex))
      emptyOnly := items.all (·.emptyOnly)
      depth := 1 + items.foldl (fun d i => max d i.depth) 0
      room := items.foldl (fun n i => n + i.room) 120 }

/-- How often an element is repeated. -/
structure Bounds where
  low : Nat
  high? : Option Nat
deriving DecidableEq, Repr

/-- The room that an element takes repeatedly, if it takes the room `one` once. -/
def Bounds.room (b : Bounds) (one : Nat) : Nat :=
  match b.high? with
  | none => one * max 1 b.low + 40
  | some high => if b.low = high then one * high else one * high + 40 * (high - b.low) + 32

/-- The element repeated. To repeat the empty text more than once makes no difference. -/
def Item.repeated (i : Item) (b : Bounds) (greedy : Bool) : Item :=
  let b := if i.emptyOnly then
      { low := min b.low 1, high? := some (b.high?.elim 1 (min · 1)) }
    else b
  { build := fun _ => i.regex.repeated greedy b.low b.high?
    emptyOnly := i.emptyOnly || b.high? == some 0
    depth := i.depth + 1
    room := b.room i.room }

/-! ## State -/

/-- A group that is being read, or the whole pattern. -/
structure Scope where
  /-- The name of the group, if it captures under one. -/
  name : Option String := none
  /-- The flags to return to behind the group. -/
  outerFlags : Flags := {}
  /-- The alternatives that are complete, last one first. -/
  branches : List Item := []
  /-- The elements of the current alternative, last one first. -/
  items : List Item := []

namespace Scope

/-- The scope with one more element. -/
def push (s : Scope) (i : Item) : Scope :=
  { s with items := i :: s.items }

/-- The scope after the end of an alternative. -/
def endBranch (s : Scope) : Scope :=
  { s with branches := Item.sequence s.items :: s.branches, items := [] }

/-- Everything that was read. -/
def body (s : Scope) : Item :=
  Item.choice (Item.sequence s.items :: s.branches)

/-- The group as an element of the scope around it. -/
def close (s : Scope) : Item :=
  let i := s.body
  { build := fun _ =>
      match s.name with
      | some name => .capture name i.regex
      | none => i.regex
    emptyOnly := i.emptyOnly
    depth := i.depth + 1
    room := i.room + 64 }

end Scope

/-- What a bracket holds: a set and how deep it is nested. -/
structure ClassItem where
  set : CharSet
  depth : Nat := 0

/-- The items of a bracket together; the list holds the last one first. -/
def ClassItem.together : List ClassItem → ClassItem
  | [] => { set := .empty }
  | [i] => i
  | items =>
    { set := items.reverse.foldl (fun s i => .union s i.set) .empty
      depth := 1 + items.foldl (fun d i => max d i.depth) 0 }

/-- An operator between the parts of a bracket. -/
inductive ClassOperator where
  | inter
  | diff
  | symmDiff
deriving DecidableEq, Repr

/-- The set that an operator makes of two. -/
def ClassOperator.apply : ClassOperator → CharSet → CharSet → CharSet
  | inter => .inter
  | diff => .diff
  | symmDiff => .symmDiff

/-- A bracket that is being read. -/
structure Bracket where
  negated : Bool := false
  /-- The part before the last operator. -/
  left? : Option (ClassItem × ClassOperator) := none
  /-- The items behind the last operator, last one first. -/
  items : List ClassItem := []

namespace Bracket

/-- The bracket with one more item. -/
def push (b : Bracket) (s : CharSet) (depth : Nat) : Bracket :=
  { b with items := { set := s, depth } :: b.items }

/-- The set closed under change of case, where the flags ask for it. -/
def fold (f : Flags) (s : CharSet) : CharSet :=
  if f.ignoreCase then
    if f.unicode then .folded s else .inter .ascii (.folded s)
  else s

/-- What the bracket holds, its operators applied from the left. -/
def contents (b : Bracket) (f : Flags) : ClassItem :=
  let right := ClassItem.together b.items
  match b.left? with
  | none => right
  | some (left, op) =>
    { set := op.apply (fold f left.set) (fold f right.set)
      depth := 1 + max left.depth right.depth }

/-- The bracket behind an operator. -/
def operator (b : Bracket) (f : Flags) (op : ClassOperator) : Bracket :=
  { b with left? := some (b.contents f, op), items := [] }

/-- The set, or its complement if `negated`. Where characters are bytes, a complement would hold
bytes that are no characters, and there is none. -/
def signed? (f : Flags) (negated : Bool) (s : CharSet) : Option CharSet :=
  if !negated then some s else if f.unicode then some (.compl s) else none

/-- The finished bracket. -/
def close? (b : Bracket) (f : Flags) : Option ClassItem :=
  let i := b.contents f
  (signed? f b.negated (fold f i.set)).map fun s => { set := s, depth := i.depth + 1 }

end Bracket

/-- What one escape or one plain character stands for. -/
inductive Atom where
  | char (c : Char)
  | set (s : CharSet)
  | look (a : Anchor)

/-- Where an atom is read. -/
inductive Place where
  | outside
  | classItem
  /-- Behind the dash of a range that starts at `first`. -/
  | rangeEnd (first : Char)

/-- The part of a count in braces that has been read. -/
structure Count where
  /-- The lower bound, once a comma has been read. -/
  low? : Option Nat := none
  /-- Digits of the current bound, last one first. -/
  digits : List Char := []
  /-- A blank stood last, behind the brace, the comma or the digits. -/
  gap : Bool := false

/-- What stood behind the dash of what may become a range. -/
inductive Gap where
  | none
  | blank
  /-- The sign that opens a comment. -/
  | comment
deriving DecidableEq, Repr

/-- What the next character continues. -/
inductive Mode where
  | plain
  /-- A repetition that a question mark would make lazy, also behind blanks if `blanks`. -/
  | repeated (base : Item) (bounds : Bounds) (blanks : Bool)
  | count (base : Item) (count : Count)
  | groupStart
  | groupMark
  | groupNamed
  | groupAngle
  | name (text : List Char)
  | flags (seen : List Char) (negated dangling : Bool) (result : Flags)
  | escape (place : Place)
  | hexStart (place : Place) (digits : Nat)
  | hexDigits (place : Place) (digits missing value : Nat)
  | hexBraces (place : Place) (digits : List Char)
  /-- Behind the letter that opens a property class. -/
  | property (place : Place) (negated : Bool)
  /-- In the braces of a property class, the last character first. -/
  | propertyBraces (place : Place) (negated : Bool) (text : List Char)
  | edge
  | edgeBraces (text : List Char)
  | classOpen
  | classItem
  | classAtom (a : Atom)
  | classDash (a : Atom) (gap : Gap)
  | classRangeEnd (first : Char)
  | classOperator (c : Char)
  /-- The characters behind a nested bracket that may become a named class, last one first. -/
  | classNamed (text : List Char)

/-- The state of the reader. -/
structure Reader where
  flags : Flags := {}
  scope : Scope := {}
  outer : List Scope := []
  /-- The names of the groups so far. -/
  names : List String := []
  mode : Mode := .plain
  /-- The brackets that are open, innermost first. -/
  brackets : List Bracket := []
  inComment : Bool := false

namespace Reader

/-- The state with another mode. -/
def enter (r : Reader) (m : Mode) : Reader := { r with mode := m }

/-- The state with one more element, ready for the next. -/
def push (r : Reader) (i : Item) : Reader :=
  { r with scope := r.scope.push i, mode := .plain }

/-- The innermost bracket changed. -/
def inBracket (r : Reader) (f : Bracket → Bracket) (m : Mode) : Reader :=
  match r.brackets with
  | [] => r.enter m
  | b :: bs => { r with brackets := f b :: bs, mode := m }

/-- The class of the letter behind a backslash. -/
def perlClass? (f : Flags) (c : Char) : Option CharSet :=
  let named (s t : CharSet) := if f.unicode then s else t
  match c with
  | 'd' => some (named .decimal .asciiDigit)
  | 's' => some (named .blank .asciiBlank)
  | 'w' => some (named .word .asciiWord)
  | 'D' => Bracket.signed? f true (named .decimal .asciiDigit)
  | 'S' => Bracket.signed? f true (named .blank .asciiBlank)
  | 'W' => Bracket.signed? f true (named .word .asciiWord)
  | _ => none

/-- The assertion about word borders. -/
def edgeAnchor (f : Flags) (kind : WordEdge) : Anchor :=
  .edge kind (if f.unicode then .word else .asciiWord)

/-- What a backslash with one letter or sign behind it stands for. -/
def escaped? (f : Flags) (c : Char) : Option Atom :=
  match perlClass? f c with
  | some s => some (.set s)
  | none =>
    match c with
    | 'a' => some (.char '\x07')
    | 'f' => some (.char '\x0c')
    | 't' => some (.char '\t')
    | 'n' => some (.char '\n')
    | 'r' => some (.char '\r')
    | 'v' => some (.char '\x0b')
    | 'A' => some (.look .textStart)
    | 'z' => some (.look .textEnd)
    | 'b' => some (.look (edgeAnchor f .either))
    | 'B' => some (.look (edgeAnchor f .neither))
    | '<' => some (.look (edgeAnchor f .start))
    | '>' => some (.look (edgeAnchor f .stop))
    | c => if c.toNat < 128 && !c.isAlphanum then some (.char c) else none

/-- The set of one character under the flags. Where characters are bytes, only those of ASCII have a
case. -/
def charSet (f : Flags) (c : Char) : CharSet :=
  if f.unicode || c.toNat < 128 then Bracket.fold f (.single c) else .single c

/-- The state behind an atom. -/
def deliver (r : Reader) (place : Place) (a : Atom) : Except PatternError Reader :=
  match place, a with
  | .outside, .char c => .ok (r.push (.char (charSet r.flags c)))
  | .outside, .set s => .ok (r.push (.char s))
  | .outside, .look a => .ok (r.push (.look a))
  | .classItem, .look _ => .error .malformed
  | .classItem, a => .ok (r.enter (.classAtom a))
  | .rangeEnd first, .char last =>
    if first ≤ last && (r.flags.unicode || last.toNat < 128) then
      .ok (r.inBracket (·.push (.range first last) 0) .classItem)
    else .error .malformed
  | .rangeEnd _, _ => .error .malformed

/-- The state behind an item of a bracket that turned out to be no range. -/
def pushAtom (r : Reader) (a : Atom) : Except PatternError Reader :=
  match a with
  | .char c =>
    if r.flags.unicode || c.toNat < 128 then
      .ok (r.inBracket (·.push (.single c) 0) .classItem)
    else .error .malformed
  | .set s => .ok (r.inBracket (·.push s 0) .classItem)
  | .look _ => .error .malformed

/-- The state behind a bracket that is closed, whose set is `i`; `outer` are those around it. -/
def pushBracket (r : Reader) (i : ClassItem) (outer : List Bracket) : Reader :=
  match outer with
  | [] => { r with brackets := [] }.push
      { Item.char i.set with depth := i.depth }
  | b :: bs => { r with brackets := b.push i.set i.depth :: bs, mode := .classItem }

/-- The state behind a closing bracket. -/
def closeBracket (r : Reader) : Except PatternError Reader :=
  match r.brackets with
  | [] => .error .malformed
  | b :: outer =>
    match b.close? r.flags with
    | some i => .ok (r.pushBracket i outer)
    | none => .error .malformed

/-- The state behind a character that was written by its code point. Where characters are bytes, the
short form (`byte`) means a byte, which may be no character of its own. -/
def deliverCode (r : Reader) (place : Place) (n : Nat) (byte : Bool) :
    Except PatternError Reader :=
  if n.isValidChar && (r.flags.unicode || n < 128 || !byte) then
    r.deliver place (.char (Char.ofNat n))
  else .error .malformed

/-- The state behind a property class; `text` stood behind its letter. -/
def deliverProperty (r : Reader) (place : Place) (negated : Bool) (text : List Char) :
    Except PatternError Reader :=
  match propertyClass? text with
  | some (s, unequal) =>
    if r.flags.unicode then
      let s := Bracket.fold r.flags s
      r.deliver place (.set (if negated != unequal then .compl s else s))
    else .error .malformed
  | none => .error .malformed

/-- The state behind a repetition sign. -/
def repeatLast (r : Reader) (b : Bounds) : Except PatternError Reader :=
  match r.scope.items with
  | i :: items =>
    if i.repeatable then
      .ok { r with scope := { r.scope with items }, mode := .repeated i b false }
    else .error .malformed
  | [] => .error .malformed

/-- The state at the opening brace of a count. -/
def startCount (r : Reader) : Except PatternError Reader :=
  match r.scope.items with
  | i :: items =>
    if i.repeatable then .ok { r with scope := { r.scope with items }, mode := .count i {} }
    else .error .malformed
  | [] => .error .malformed

/-- The state behind a repetition whose mode is settled. -/
def pushRepeated (r : Reader) (i : Item) (b : Bounds) (greedy : Bool) : Reader :=
  r.push (i.repeated b (greedy != r.flags.swapGreed))

/-- The state at the start of a group; `inner` are the flags in it. -/
def openGroup (r : Reader) (name : Option String) (inner : Flags) : Reader :=
  { r with
    outer := r.scope :: r.outer
    scope := { name, outerFlags := r.flags }
    flags := inner
    mode := .plain }

/-- The state behind a closing parenthesis. -/
def closeGroup (r : Reader) : Except PatternError Reader :=
  match r.outer with
  | [] => .error .malformed
  | s :: outer =>
    .ok { r with
      scope := s.push r.scope.close
      outer
      flags := r.scope.outerFlags
      mode := .plain }

/-- The item of the dot. -/
def dot? (f : Flags) : Option Item :=
  if !f.unicode then none
  else if f.dotAll then some (.char .any)
  else if f.carriageReturn then some (.char (.compl (.union (.single '\n') (.single '\r'))))
  else some (.char (.compl (.single '\n')))

/-- The assertion of the circumflex. -/
def circumflex (f : Flags) : Anchor :=
  if !f.multiLine then .textStart else if f.carriageReturn then .returnLineStart else .lineStart

/-- The assertion of the dollar sign. -/
def dollar (f : Flags) : Anchor :=
  if !f.multiLine then .textEnd else if f.carriageReturn then .returnLineEnd else .lineEnd

/-- Reads a character outside of every special form. -/
def readPlain (r : Reader) (c : Char) : Except PatternError Reader :=
  match c with
  | '(' => .ok (r.enter .groupStart)
  | ')' => r.closeGroup
  | '|' => .ok { r with scope := r.scope.endBranch }
  | '[' => .ok { r with brackets := [{}], mode := .classOpen }
  | '?' => r.repeatLast ⟨0, some 1⟩
  | '*' => r.repeatLast ⟨0, none⟩
  | '+' => r.repeatLast ⟨1, none⟩
  | '\x7b' => r.startCount
  | '\\' => .ok (r.enter (.escape .outside))
  | '.' =>
    match dot? r.flags with
    | some i => .ok (r.push i)
    | none => .error .malformed
  | '^' => .ok (r.push (.look (circumflex r.flags)))
  | '$' => .ok (r.push (.look (dollar r.flags)))
  | c => .ok (r.push (.char (charSet r.flags c)))

/-- The number that the digits, last one first, denote, if it is below 2^32. -/
def bound? (digits : List Char) : Option Nat :=
  let n := digits.foldr (fun c n => n * 10 + (c.toNat - '0'.toNat)) 0
  if digits.isEmpty || 4294967296 ≤ n then none else some n

/-- Reads a character of a count. -/
def readCount (r : Reader) (base : Item) (k : Count) (c : Char) : Except PatternError Reader :=
  if Text.isBlank c then .ok (r.enter (.count base { k with gap := true }))
  else if c.isDigit then
    if k.gap && !k.digits.isEmpty then .error .malformed
    else .ok (r.enter (.count base { k with digits := c :: k.digits, gap := false }))
  else
    match c, k.low?, bound? k.digits with
    | ',', none, some low => .ok (r.enter (.count base { low? := some low }))
    | '\x7d', none, some n => .ok (r.enter (.repeated base ⟨n, some n⟩ true))
    | '\x7d', some low, some high =>
      if low ≤ high then .ok (r.enter (.repeated base ⟨low, some high⟩ true)) else .error .malformed
    | '\x7d', some low, none =>
      if k.digits.isEmpty && !k.gap then .ok (r.enter (.repeated base ⟨low, none⟩ true))
      else .error .malformed
    | _, _, _ => .error .malformed

/-- A character that may open the name of a group. -/
def opensName (c : Char) : Bool :=
  c == '_' || Text.isLetter c

/-- A character that may stand in the name of a group behind its first. -/
def inName (c : Char) : Bool :=
  c == '_' || c == '.' || c == '[' || c == ']' || Text.isLetter c || Text.isNumeral c

/-- Reads a character of a name. -/
def readName (r : Reader) (text : List Char) (c : Char) : Except PatternError Reader :=
  if c == '>' then
    let name := String.ofList text.reverse
    if text.isEmpty || r.names.contains name then .error .malformed
    else .ok ({ r with names := name :: r.names }.openGroup (some name) r.flags)
  else if if text.isEmpty then opensName c else inName c then .ok (r.enter (.name (c :: text)))
  else .error .malformed

/-- Reads a character of a group of flags. -/
def readFlags (r : Reader) (seen : List Char) (negated dangling : Bool) (result : Flags)
    (c : Char) : Except PatternError Reader :=
  match c with
  | ')' =>
    if seen.isEmpty || dangling then .error .malformed
    else .ok ({ r with flags := result }.push { Item.empty with repeatable := false })
  | ':' => if dangling then .error .malformed else .ok (r.openGroup none result)
  | '-' =>
    if negated then .error .malformed else .ok (r.enter (.flags (c :: seen) true true result))
  | c =>
    match result.switch? c (!negated) with
    | some result =>
      if seen.contains c then .error .malformed
      else .ok (r.enter (.flags (c :: seen) negated false result))
    | none => .error .malformed

/-- Reads the character behind a backslash. -/
def readEscape (r : Reader) (place : Place) (c : Char) : Except PatternError Reader :=
  match c with
  | 'x' => .ok (r.enter (.hexStart place 2))
  | 'u' => .ok (r.enter (.hexStart place 4))
  | 'U' => .ok (r.enter (.hexStart place 8))
  | 'p' => .ok (r.enter (.property place false))
  | 'P' => .ok (r.enter (.property place true))
  | c =>
    match escaped? r.flags c with
    | none => .error .malformed
    | some a => do
      let r ← r.deliver place a
      match place, c with
      | .outside, 'b' => .ok (r.enter .edge)
      | _, _ => .ok r

/-- Reads a digit of a character that is written by its code point. -/
def readHex (r : Reader) (place : Place) (digits missing value : Nat) (c : Char) :
    Except PatternError Reader :=
  match Text.hexDigit? c with
  | none => .error .malformed
  | some d =>
    if missing ≤ 1 then r.deliverCode place (value * 16 + d) (digits == 2)
    else .ok (r.enter (.hexDigits place digits (missing - 1) (value * 16 + d)))

/-- Reads a character between the braces of a code point. -/
def readHexBraces (r : Reader) (place : Place) (digits : List Char) (c : Char) :
    Except PatternError Reader :=
  if c == '\x7d' then
    match digits, Text.hexNumber? digits.reverse with
    | _ :: _, some n => r.deliverCode place n false
    | _, _ => .error .malformed
  else if (Text.hexDigit? c).isSome then .ok (r.enter (.hexBraces place (c :: digits)))
  else .error .malformed

/-- Reads the character behind the letter that opens a property class. -/
def readProperty (r : Reader) (place : Place) (negated : Bool) (c : Char) :
    Except PatternError Reader :=
  if c == '\x7b' then .ok (r.enter (.propertyBraces place negated []))
  else if c == '\\' then .error .malformed
  else r.deliverProperty place negated [c]

/-- Reads a character in the braces of a property class. -/
def readPropertyBraces (r : Reader) (place : Place) (negated : Bool) (text : List Char) (c : Char) :
    Except PatternError Reader :=
  if c == '\x7d' then r.deliverProperty place negated text.reverse
  else .ok (r.enter (.propertyBraces place negated (c :: text)))

/-- The word border of that name. -/
def edgeNamed? : String → Option WordEdge
  | "start" => some .start
  | "end" => some .stop
  | "start-half" => some .startHalf
  | "end-half" => some .stopHalf
  | _ => none

/-- Reads a character of the braces behind a word border. -/
def readEdgeBraces (r : Reader) (text : List Char) (c : Char) : Except PatternError Reader :=
  if c.isAlpha || c == '-' then .ok (r.enter (.edgeBraces (c :: text)))
  else if text.isEmpty then do
    let r ← r.startCount
    match r.mode with
    | .count base k => r.readCount base k c
    | _ => .error .malformed
  else
    match c, edgeNamed? (String.ofList text.reverse) with
    | '\x7d', some kind =>
      .ok ({ r with scope := { r.scope with items := r.scope.items.drop 1 } }.push
        (.look (edgeAnchor r.flags kind)))
    | _, _ => .error .malformed

/-- Reads a character where an item of a bracket may start. -/
def readClassItem (r : Reader) (c : Char) : Except PatternError Reader :=
  match c with
  | '[' => .ok (r.enter (.classNamed []))
  | ']' => r.closeBracket
  | '\\' => .ok (r.enter (.escape .classItem))
  | '&' | '-' | '~' => .ok (r.enter (.classOperator c))
  | c => .ok (r.enter (.classAtom (.char c)))

/-- Reads a character at the start of a bracket. -/
def readClassOpen (r : Reader) (c : Char) : Except PatternError Reader :=
  match r.brackets with
  | [] => .error .malformed
  | b :: _ =>
    if c == '^' && !b.negated && b.items.isEmpty then
      .ok (r.inBracket ({ · with negated := true }) .classOpen)
    else if c == '-' then .ok (r.inBracket (·.push (.single '-') 0) .classOpen)
    else if c == ']' && b.items.isEmpty then
      .ok (r.inBracket (·.push (.single ']') 0) .classItem)
    else r.readClassItem c

/-- Reads the character behind an item of a bracket. -/
def readClassAtom (r : Reader) (a : Atom) (c : Char) : Except PatternError Reader :=
  if c == '-' then .ok (r.enter (.classDash a .none))
  else do
    let r ← r.pushAtom a
    r.readClassItem c

/-- The character at which a range with that atom in front of its dash starts. -/
def rangeStart? (f : Flags) : Atom → Option Char
  | .char first => if f.unicode || first.toNat < 128 then some first else none
  | _ => none

/-- Reads the end of a range. -/
def readRangeEnd (r : Reader) (first : Char) (c : Char) : Except PatternError Reader :=
  if c == '\\' then .ok (r.enter (.escape (.rangeEnd first)))
  else r.deliver (.rangeEnd first) (.char c)

/-- Reads the character behind an item of a bracket and a dash. -/
def readClassDash (r : Reader) (a : Atom) (gap : Gap) (c : Char) : Except PatternError Reader :=
  match c with
  | ']' => do
    let r ← r.pushAtom a
    let r ← r.pushAtom (.char '-')
    r.closeBracket
  | '-' => do
    let r ← r.pushAtom a
    if gap = .none then .ok (r.inBracket (·.operator r.flags .diff) .classItem)
    else .ok (r.enter (.classDash (.char '-') .none))
  | c =>
    match rangeStart? r.flags a with
    | some first => r.readRangeEnd first c
    | none => .error .malformed

/-- Looks at a character behind a dash and a comment. The first one that is no blank decides whether
the dash makes a range, even in the comment itself. -/
def decideDash (r : Reader) (c : Char) : Except PatternError Reader :=
  match r.mode with
  | .classDash a .comment =>
    if Text.isBlank c then .ok r
    else if c == ']' || c == '-' then do
      let r ← r.pushAtom a
      .ok (r.enter (.classAtom (.char '-')))
    else
      match rangeStart? r.flags a with
      | some first => .ok (r.enter (.classRangeEnd first))
      | none => .error .malformed
  | _ => .ok r

/-- Reads the second character of an operator between the parts of a bracket. -/
def readClassOperator (r : Reader) (c : Char) : Except PatternError Reader :=
  let op := match c with
    | '&' => ClassOperator.inter
    | '~' => .symmDiff
    | _ => .diff
  .ok (r.inBracket (·.operator r.flags op) .classItem)

/-! ## Named classes in brackets

An opening bracket in a bracket starts a named class only if all of the class follows; otherwise it
starts a nested bracket, and the characters read so far are items of that one.
-/

/-- The character continues what may become a named class. -/
def continuesNamed (text : List Char) (c : Char) : Bool :=
  match text with
  | [] => c == ':'
  | [_] => c == '^' || c.isLower || c == ':'
  | ':' :: _ => c == ']'
  | _ => c.isLower || c == ':'

/-- The named class that the characters behind an opening bracket spell, last one first. -/
def namedClass? (text : List Char) : Option (Bool × CharSet) :=
  let named (name : List Char) := CharSet.named? (String.ofList (name.take (name.length - 2)))
  match text.reverse with
  | ':' :: '^' :: name => (named name).map (true, ·)
  | ':' :: name => (named name).map (false, ·)
  | _ => none

/-- The state if the characters behind an opening bracket spell no named class. -/
def asNested (r : Reader) (text : List Char) : Reader :=
  match text with
  | [] => { r with brackets := {} :: r.brackets, mode := .classOpen }
  | last :: earlier =>
    let b := earlier.reverse.foldl (fun (b : Bracket) c => b.push (.single c) 0) {}
    { r with brackets := b :: r.brackets, mode := .classAtom (.char last) }

/-- Reads a character of a named class. -/
def readNamed (r : Reader) (text : List Char) (c : Char) : Except PatternError Reader :=
  let text := c :: text
  if c == ']' then
    match namedClass? text with
    | some (negated, s) =>
      match Bracket.signed? r.flags negated (Bracket.fold r.flags s) with
      | some s => .ok (r.inBracket (·.push s 0) .classItem)
      | none => .error .malformed
    | none =>
      let r := r.asNested (text.drop 1)
      match r.mode with
      | .classAtom a => r.readClassAtom a c
      | _ => r.readClassOpen c
  else .ok (r.enter (.classNamed text))

/-! ## One character -/

/-- The mode passes over blanks and comments in verbose patterns. -/
def passesBlanks : Mode → Bool
  | .plain | .repeated _ _ true | .count _ _ | .groupStart | .hexStart _ _ | .hexDigits _ _ _ _
  | .hexBraces _ _ | .property _ _ | .propertyBraces _ _ _ | .edgeBraces _ | .classOpen
  | .classItem | .classAtom _ | .classDash _ _ | .classRangeEnd _ => true
  | _ => false

/-- The mode behind a blank or the sign of a comment. -/
def behind (gap : Gap) : Mode → Mode
  | .classDash a .comment => .classDash a .comment
  | .classDash a _ => .classDash a gap
  | m => m

/-- The state once it is known that `c` follows: completes what `c` does not continue. -/
def settle (r : Reader) (c : Char) : Reader :=
  match r.mode with
  | .repeated i b blanks =>
    if c == '?' || (blanks && r.flags.verbose && (Text.isBlank c || c == '#')) then r
    else r.pushRepeated i b true
  | .edge => if c == '\x7b' then r else r.enter .plain
  | .classOperator d => if c == d then r else r.enter (.classAtom (.char d))
  | .classNamed text => if continuesNamed text c then r else r.asNested text
  | _ => r

/-- Reads a character according to the mode. -/
def read (r : Reader) (c : Char) : Except PatternError Reader :=
  match r.mode with
  | .plain => r.readPlain c
  | .repeated i b _ => .ok (r.pushRepeated i b (c != '?'))
  | .count i k => r.readCount i k c
  | .groupStart =>
    if c == '?' then .ok (r.enter .groupMark) else (r.openGroup none r.flags).readPlain c
  | .groupMark =>
    match c with
    | 'P' => .ok (r.enter .groupNamed)
    | '<' => .ok (r.enter .groupAngle)
    | c => r.readFlags [] false false r.flags c
  | .groupNamed => if c == '<' then .ok (r.enter (.name [])) else .error .malformed
  | .groupAngle => r.readName [] c
  | .name text => r.readName text c
  | .flags seen negated dangling result => r.readFlags seen negated dangling result c
  | .escape place => r.readEscape place c
  | .hexStart place digits =>
    if c == '\x7b' then .ok (r.enter (.hexBraces place []))
    else r.readHex place digits digits 0 c
  | .hexDigits place digits missing value => r.readHex place digits missing value c
  | .hexBraces place digits => r.readHexBraces place digits c
  | .property place negated => r.readProperty place negated c
  | .propertyBraces place negated text => r.readPropertyBraces place negated text c
  | .edge => .ok (r.enter (.edgeBraces []))
  | .edgeBraces text => r.readEdgeBraces text c
  | .classOpen => r.readClassOpen c
  | .classItem => r.readClassItem c
  | .classAtom a => r.readClassAtom a c
  | .classDash a gap => r.readClassDash a gap c
  | .classRangeEnd first => r.readRangeEnd first c
  | .classOperator _ => r.readClassOperator c
  | .classNamed text => r.readNamed text c

/-- Takes one character, which does not decide about a dash. -/
def advance (r : Reader) (c : Char) : Except PatternError Reader :=
  if r.inComment then .ok { r with inComment := c != '\n' }
  else
    let r := r.settle c
    if r.flags.verbose && passesBlanks r.mode then
      if Text.isBlank c then .ok (r.enter (behind .blank r.mode))
      else if c == '#' then .ok { r with mode := behind .comment r.mode, inComment := true }
      else r.read c
    else r.read c

/-- Takes one character. -/
def step (r : Reader) (c : Char) : Except PatternError Reader := do
  let r ← r.decideDash c
  r.advance c

/-- The element that the whole pattern is, if it may end here. -/
def finish (r : Reader) : Except PatternError Item :=
  if !r.outer.isEmpty then .error .malformed
  else
    match r.mode with
    | .plain | .edge => .ok r.scope.body
    | .repeated i b _ => .ok (r.pushRepeated i b true).scope.body
    | _ => .error .malformed

end Reader

/-- The expression that a list of characters writes, if it takes no more room than `limit`. -/
def parseChars (cs : List Char) (limit : Nat := roomLimit) : Except PatternError Regex := do
  let r ← cs.foldlM Reader.step {}
  let i ← r.finish
  if nestLimit < i.depth then .error .malformed
  else if limit < i.room then .error .tooLarge
  else .ok i.regex

/-- The expression that a pattern writes, if it takes no more room than `limit`. -/
def parse (pattern : String) (limit : Nat := roomLimit) : Except PatternError Regex :=
  parseChars pattern.toList limit

end Regex

end ChatCommand
