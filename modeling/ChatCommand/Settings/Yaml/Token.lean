import ChatCommand.Text.Blank
import ChatCommand.Text.Digit

/-!
# YAML tokens

`Token.scan` cuts a document into tokens. Indentation becomes tokens that open and close blocks, and
the start of a key is put in front of the token that turned out to be one. Where the text cannot be
cut any further the last token is the fault.
-/

namespace ChatCommand.Settings.Yaml

/-- A place in a document: lines and columns from zero, and the number of characters before it. -/
structure Mark where
  line : Nat := 0
  column : Nat := 0
  index : Nat := 0
deriving DecidableEq, Repr

namespace Mark

/-- The place is the start of the first line. -/
def isStart (m : Mark) : Bool :=
  m.line == 0 && m.column == 0

/-- The place in words. -/
def describe (m : Mark) : String :=
  " at line " ++ toString (m.line + 1) ++ " column " ++ toString (m.column + 1)

end Mark

/-- What is wrong with a document. -/
structure Fault where
  problem : String
  mark : Mark
  /-- What was being read, and since where. -/
  context : Option (String × Mark) := none
deriving Repr

/-- The fault in words. The start of the document is not named. -/
def Fault.message (f : Fault) : String :=
  let place := if f.mark.isStart then "" else f.mark.describe
  let context := match f.context with
    | none => ""
    | some (what, m) =>
      ", " ++ what ++ if m.isStart || (m.line == f.mark.line && m.column == f.mark.column) then ""
        else m.describe
  f.problem ++ place ++ context

/-- How a scalar is written. -/
inductive Style where
  | plain
  | quoted
  | block
deriving DecidableEq, Repr

/-- The kinds of tokens. -/
inductive TokenKind where
  | versionDirective (major minor : Nat)
  | tagDirective (handle start : String)
  | documentStart
  | documentEnd
  | blockSequenceStart
  | blockMappingStart
  | blockEnd
  | flowSequenceStart
  | flowSequenceEnd
  | flowMappingStart
  | flowMappingEnd
  | blockEntry
  | flowEntry
  | key
  | value
  | alias (name : String)
  | anchor (name : String)
  | tag (handle suffix : String)
  | scalar (text : String) (style : Style)
  | streamEnd
  | fault (f : Fault)
deriving Repr

/-- A token and where it starts. -/
structure Token where
  kind : TokenKind
  mark : Mark
deriving Repr

/-! ## Characters -/

/-- A blank within a line. -/
def isSpace (c : Char) : Bool :=
  c == ' ' || c == '\t'

/-- A character that ends a line. -/
def isBreak (c : Char) : Bool :=
  c == '\n' || c == '\r' || c == '\u0085' || c == '\u2028' || c == '\u2029'

/-- Nothing follows, or a blank, or a line end. -/
def startsBlank : List Char → Bool
  | [] => true
  | c :: _ => isSpace c || isBreak c

/-- A character of names. -/
def isNameChar (c : Char) : Bool :=
  c.isAlphanum || c == '_' || c == '-'

/-- The characters start a line that separates documents. -/
def startsSeparator (column : Nat) (cs : List Char) : Bool :=
  column == 0 &&
    match cs with
    | '-' :: '-' :: '-' :: cs | '.' :: '.' :: '.' :: cs => startsBlank cs
    | _ => false

/-- A line end as it stands in a text, and the characters behind it. -/
def readBreak : List Char → Option (Char × List Char × Nat)
  | '\r' :: '\n' :: cs => some ('\n', cs, 2)
  | '\u2028' :: cs => some ('\u2028', cs, 1)
  | '\u2029' :: cs => some ('\u2029', cs, 1)
  | c :: cs => if isBreak c then some ('\n', cs, 1) else none
  | [] => none

/-- The characters that are left, and where they start. -/
structure Cursor where
  rest : List Char
  mark : Mark := {}

namespace Cursor

/-- The cursor behind `n` characters of the line. -/
def skip (c : Cursor) (n : Nat) : Cursor :=
  { rest := c.rest.drop n
    mark := { c.mark with column := c.mark.column + n, index := c.mark.index + n } }

/-- The cursor behind the characters that fulfil `p`, none of which ends a line. -/
def skipWhile (c : Cursor) (p : Char → Bool) : Cursor :=
  c.skip (c.rest.takeWhile p).length

/-- The line end here and the cursor behind it. -/
def break? (c : Cursor) : Option (Char × Cursor) :=
  (readBreak c.rest).map fun (b, rest, n) =>
    (b, { rest, mark := { line := c.mark.line + 1, column := 0, index := c.mark.index + n } })

/-- The first character is `d`. -/
def starts (c : Cursor) (d : Char) : Bool :=
  c.rest.head? == some d

/-- The rest of the line is a comment or nothing, and the cursor is moved behind it. -/
def skipComment (c : Cursor) : Cursor :=
  if c.starts '#' then c.skipWhile (!isBreak ·) else c

/-- There is a problem here. -/
def fail {α : Type} (c : Cursor) (problem : String) (context : Option (String × Mark) := none) :
    Except Fault α :=
  .error { problem, mark := c.mark, context }

end Cursor

/-! ## Joining lines -/

/-- Blanks and line ends between two parts of a text that is written over several lines. -/
structure Gap where
  /-- A line has ended, or the end of one has been escaped. -/
  broken : Bool := false
  /-- Blanks before the first line end. -/
  blanks : List Char := []
  first : Option Char := none
  /-- The further line ends. -/
  others : List Char := []

/-- What a gap stands for in the text: one line end for a blank, further ones for themselves. -/
def Gap.text (g : Gap) : List Char :=
  if g.broken then
    match g.first with
    | some '\n' => if g.others.isEmpty then [' '] else g.others
    | first => first.toList ++ g.others
  else g.blanks

/-- Reads blanks and line ends. A tab that stands where a line is not yet indented by `indent` is
refused, if there is an indentation to keep. -/
def readGap (fuel : Nat) (indent : Option Int) (g : Gap) (c : Cursor) :
    Except Fault (Gap × Cursor) :=
  match fuel with
  | 0 => .ok (g, c)
  | fuel + 1 =>
    match c.break?, c.rest with
    | some (b, next), _ =>
      if g.broken then readGap fuel indent { g with others := g.others ++ [b] } next
      else readGap fuel indent { broken := true, first := some b } next
    | none, d :: _ =>
      if isSpace d then
        if g.broken && d == '\t' && indent.any fun i => (c.mark.column : Int) < i then
          c.fail "found a tab character that violates indentation"
        else if g.broken then readGap fuel indent g (c.skip 1)
        else readGap fuel indent { g with blanks := g.blanks ++ [d] } (c.skip 1)
      else .ok (g, c)
    | none, [] => .ok (g, c)

/-! ## Plain scalars -/

/-- The characters of a plain scalar up to a blank or to its end. -/
def plainWord (inFlow : Bool) : List Char → List Char
  | [] => []
  | c :: cs =>
    if isSpace c || isBreak c then []
    else if c == ':' && startsBlank cs then []
    else if inFlow && [',', '[', ']', '\x7b', '\x7d'].contains c then []
    else c :: plainWord inFlow cs

/-- A colon in a plain scalar within brackets that an indicator follows. -/
def hasBadColon : List Char → Bool
  | ':' :: c :: cs => [',', '?', '[', ']', '\x7b', '\x7d'].contains c || hasBadColon (c :: cs)
  | _ :: cs => hasBadColon cs
  | [] => false

/-- Reads a plain scalar, given what has been read of it and the gap behind that. The result tells
whether the scalar ended with a line. -/
def readPlain (fuel : Nat) (inFlow : Bool) (indent : Int) (start : Mark) (text : List Char)
    (g : Gap) (c : Cursor) : Except Fault (List Char × Bool × Cursor) :=
  match fuel with
  | 0 => .ok (text, g.broken, c)
  | fuel + 1 =>
    let word := plainWord inFlow c.rest
    if startsSeparator c.mark.column c.rest || c.starts '#' then .ok (text, g.broken, c)
    else if inFlow && hasBadColon (word ++ (c.rest.drop word.length).take 1) then
      (c.skip (word.takeWhile (· != ':')).length).fail "found unexpected ':'"
        (some ("while scanning a plain scalar", start))
    else
      let (text, g) := if word.isEmpty then (text, g) else (text ++ g.text ++ word, {})
      let c := c.skip word.length
      if c.rest.isEmpty || !startsBlank c.rest then .ok (text, g.broken, c)
      else
        match readGap (c.rest.length + 1) (some indent) g c with
        | .error f => .error { f with context := some ("while scanning a plain scalar", start) }
        | .ok (g, next) =>
          if !inFlow && (next.mark.column : Int) < indent then .ok (text, g.broken, next)
          else readPlain fuel inFlow indent start text g next

/-! ## Quoted scalars -/

/-- The character of an escape that takes no digits. -/
def escape? (c : Char) : Option Char :=
  match c with
  | '0' => some '\x00'
  | 'a' => some '\x07'
  | 'b' => some '\x08'
  | 't' | '\t' => some '\t'
  | 'n' => some '\n'
  | 'v' => some '\x0b'
  | 'f' => some '\x0c'
  | 'r' => some '\r'
  | 'e' => some '\x1b'
  | ' ' => some ' '
  | '"' => some '"'
  | '/' => some '/'
  | '\\' => some '\\'
  | 'N' => some '\u0085'
  | '_' => some '\u00a0'
  | 'L' => some '\u2028'
  | 'P' => some '\u2029'
  | _ => none

/-- The number of digits of an escape by code point. -/
def escapeDigits? (c : Char) : Option Nat :=
  match c with
  | 'x' => some 2
  | 'u' => some 4
  | 'U' => some 8
  | _ => none

/-- The character of an escape, and the cursor behind it; `c` is at the backslash. -/
def readEscape (context : Option (String × Mark)) (c : Cursor) : Except Fault (Char × Cursor) :=
  match c.rest with
  | _ :: e :: cs =>
    match escape? e, escapeDigits? e with
    | some d, _ => .ok (d, c.skip 2)
    | none, some n =>
      let digits := cs.take n
      match Text.hexNumber? digits with
      | some v =>
        if digits.length < n then
          (c.skip 2).fail "did not find expected hexdecimal number" context
        else if v.isValidChar then .ok (Char.ofNat v, c.skip (n + 2))
        else (c.skip 2).fail "found invalid Unicode character escape code" context
      | none => (c.skip 2).fail "did not find expected hexdecimal number" context
    | none, none => c.fail "found unknown escape character" context
  | _ => c.fail "found unknown escape character" context

/-- What a part of a quoted scalar without blanks ends with. -/
inductive PartEnd where
  | blank
  | escapedBreak

/-- Reads a part of a quoted scalar up to a blank, a line end or the closing quote. -/
def readQuotedPart (fuel : Nat) (single : Bool) (context : Option (String × Mark))
    (text : List Char) (c : Cursor) : Except Fault (List Char × PartEnd × Cursor) :=
  match fuel with
  | 0 => .ok (text, .blank, c)
  | fuel + 1 =>
    match c.rest with
    | [] => .ok (text, .blank, c)
    | d :: cs =>
      if isSpace d || isBreak d then .ok (text, .blank, c)
      else if single && d == '\'' then
        match cs with
        | '\'' :: _ => readQuotedPart fuel single context (text ++ ['\'']) (c.skip 2)
        | _ => .ok (text, .blank, c)
      else if !single && d == '"' then .ok (text, .blank, c)
      else if !single && d == '\\' then
        match (c.skip 1).break? with
        | some (_, next) => .ok (text, .escapedBreak, next)
        | none =>
          match readEscape context c with
          | .ok (e, next) => readQuotedPart fuel single context (text ++ [e]) next
          | .error f => .error f
      else readQuotedPart fuel single context (text ++ [d]) (c.skip 1)

/-- Reads the rest of a quoted scalar, behind its opening quote. -/
def readQuoted (fuel : Nat) (single : Bool) (start : Mark) (text : List Char) (c : Cursor) :
    Except Fault (List Char × Cursor) :=
  match fuel with
  | 0 => .ok (text, c)
  | fuel + 1 =>
    let context := some ("while scanning a quoted scalar", start)
    if startsSeparator c.mark.column c.rest then
      c.fail "found unexpected document indicator" context
    else if c.rest.isEmpty then c.fail "found unexpected end of stream" context
    else
      match readQuotedPart (c.rest.length + 1) single
          (some ("while parsing a quoted scalar", start)) text c with
      | .error f => .error f
      | .ok (text, partEnd, c) =>
        let broken := match partEnd with
          | .blank => false
          | .escapedBreak => true
        if !broken && c.starts (if single then '\'' else '"') then .ok (text, c.skip 1)
        else
          match readGap (c.rest.length + 1) none { broken } c with
          | .error f => .error f
          | .ok (g, c) => readQuoted fuel single start (text ++ g.text) c

/-! ## Block scalars -/

/-- Passes over line ends and over the indentation of the line behind them. An indentation of zero
is not known yet; the result then is the deepest one. -/
def readBlockBreaks (fuel : Nat) (indent deepest : Nat) (breaks : List Char)
    (context : Option (String × Mark)) (c : Cursor) :
    Except Fault (Nat × List Char × Cursor) :=
  match fuel with
  | 0 => .ok (deepest, breaks, c)
  | fuel + 1 =>
    let spaces := (c.rest.takeWhile (· == ' ')).length
    let c := c.skip (if indent = 0 then spaces else min spaces (indent - c.mark.column))
    let deepest := max deepest c.mark.column
    if (indent = 0 || c.mark.column < indent) && c.starts '\t' then
      c.fail "found a tab character where an indentation space is expected" context
    else
      match c.break? with
      | some (b, next) => readBlockBreaks fuel indent deepest (breaks ++ [b]) context next
      | none => .ok (deepest, breaks, c)

/-- Reads the lines of a block scalar. -/
def readBlockLines (fuel : Nat) (literal : Bool) (indent : Nat) (context : Option (String × Mark))
    (text leading breaks : List Char) (leadingBlank : Bool) (c : Cursor) :
    Except Fault (List Char × List Char × List Char × Cursor) :=
  match fuel with
  | 0 => .ok (text, leading, breaks, c)
  | fuel + 1 =>
    if c.mark.column != indent || c.rest.isEmpty then .ok (text, leading, breaks, c)
    else
      let blank := c.rest.head?.any isSpace
      let fold := !literal && leading.head? == some '\n' && !leadingBlank && !blank
      let joined := if fold then (if breaks.isEmpty then [' '] else []) else leading
      let line := c.rest.takeWhile (!isBreak ·)
      let text := text ++ joined ++ breaks ++ line
      let c := c.skip line.length
      let (leading, c) := match c.break? with
        | some (b, next) => ([b], next)
        | none => ([], c)
      match readBlockBreaks (c.rest.length + 1) indent 0 [] context c with
      | .error f => .error f
      | .ok (_, breaks, c) => readBlockLines fuel literal indent context text leading breaks blank c

/-- What happens to the line ends at the end of a block scalar. -/
inductive Chomping where
  | clip
  | strip
  | keep

/-- The chomping sign here. -/
def chomping? (c : Cursor) : Option Chomping :=
  match c.rest with
  | '+' :: _ => some .keep
  | '-' :: _ => some .strip
  | _ => none

/-- The digit of an indentation here. -/
def increment? (c : Cursor) : Option Nat :=
  match c.rest with
  | d :: _ => if d.isDigit then some (d.toNat - '0'.toNat) else none
  | [] => none

/-- Reads a block scalar; `parent` is the indentation around it. -/
def readBlock (literal : Bool) (parent : Int) (c : Cursor) : Except Fault (String × Cursor) := do
  let context := some ("while scanning a block scalar", c.mark)
  let c := c.skip 1
  let chomping := chomping? c
  let c := if chomping.isSome then c.skip 1 else c
  let increment := increment? c
  if increment = some 0 then
    c.fail "found an indentation indicator equal to 0" context
  else
    let c := if increment.isSome then c.skip 1 else c
    let late := if chomping.isNone && increment.isSome then chomping? c else none
    let c := if late.isSome then c.skip 1 else c
    let chomping := (chomping <|> late).getD .clip
    let c := (c.skipWhile isSpace).skipComment
    if !c.rest.isEmpty && c.break?.isNone then
      c.fail "did not find expected comment or line break" context
    else
      let c := match c.break? with
        | some (_, next) => next
        | none => c
      let known := match increment with
        | some n => (max parent 0).toNat + n
        | none => 0
      let (deepest, breaks, c) ← readBlockBreaks (c.rest.length + 1) known 0 [] context c
      let indent := if known = 0 then max deepest (max (parent + 1) 1).toNat else known
      let (text, leading, breaks, c) ←
        readBlockLines (c.rest.length + 1) literal indent context [] [] breaks false c
      let tail := match chomping with
        | .strip => []
        | .clip => leading
        | .keep => leading ++ breaks
      pure (String.ofList (text ++ tail), c)

/-! ## Names, tags and directives -/

/-- Reads the name of an anchor or alias, behind its sign. -/
def readName (what : String) (start : Mark) (c : Cursor) : Except Fault (String × Cursor) :=
  let name := c.rest.takeWhile isNameChar
  let next := c.skip name.length
  let ends := match next.rest with
    | d :: _ => startsBlank next.rest || ['?', ':', ',', ']', '\x7d', '%', '@', '`'].contains d
    | [] => true
  if name.isEmpty || !ends then
    next.fail "did not find expected alphabetic or numeric character"
      (some ("while scanning " ++ what, start))
  else .ok (String.ofList name, next)

/-- A character of the address that a tag is; within angle brackets there are a few more. -/
def isAddressChar (bracketed : Bool) (c : Char) : Bool :=
  isNameChar c ||
    [';', '/', '?', ':', '@', '&', '=', '+', '$', '.', '%', '!', '~', '*', '\'', '(', ')'].contains
      c ||
    (bracketed && [',', '[', ']'].contains c)

/-- The bytes that escapes by a percent sign stand for, as characters where they are ASCII. -/
def unescapeAddress (fuel : Nat) (cs : List Char) : Option (List Char) :=
  match fuel, cs with
  | 0, _ => none
  | _ + 1, [] => some []
  | fuel + 1, '%' :: a :: b :: cs =>
    match Text.hexNumber? [a, b] with
    | some n => if n < 128 then (unescapeAddress fuel cs).map (Char.ofNat n :: ·) else none
    | none => none
  | _ + 1, '%' :: _ => none
  | fuel + 1, c :: cs => (unescapeAddress fuel cs).map (c :: ·)

/-- Reads the address of a tag. -/
def readAddress (bracketed : Bool) (context : Option (String × Mark)) (c : Cursor) :
    Except Fault (String × Cursor) :=
  let cs := c.rest.takeWhile (isAddressChar bracketed)
  match unescapeAddress (cs.length + 1) cs with
  | some address => .ok (String.ofList address, c.skip cs.length)
  | none => c.fail "did not find URI escaped octet" context

/-- Reads a tag. -/
def readTag (inFlow : Bool) (c : Cursor) : Except Fault (TokenKind × Cursor) := do
  let context := some ("while scanning a tag", c.mark)
  let (kind, next) ← match c.rest with
    | '!' :: '<' :: _ => do
      let (suffix, next) ← readAddress true context (c.skip 2)
      if suffix.isEmpty then next.fail "did not find expected tag URI" context
      else if next.starts '>' then pure (TokenKind.tag "" suffix, next.skip 1)
      else next.fail "did not find the expected '>'" context
    | _ => do
      let name := (c.rest.drop 1).takeWhile isNameChar
      let behind := c.skip (name.length + 1)
      if behind.starts '!' then
        let (suffix, next) ← readAddress false context (behind.skip 1)
        if suffix.isEmpty then next.fail "did not find expected tag URI" context
        else pure (.tag (String.ofList ('!' :: name ++ ['!'])) suffix, next)
      else
        let (suffix, next) ← readAddress false context behind
        let suffix := String.ofList name ++ suffix
        if suffix.isEmpty then pure (.tag "" "!", next) else pure (.tag "!" suffix, next)
  if startsBlank next.rest || (inFlow && next.starts ',') then pure (kind, next)
  else next.fail "did not find expected whitespace or line break" context

/-- Reads a number of a version. -/
def readVersionNumber (context : Option (String × Mark)) (c : Cursor) :
    Except Fault (Nat × Cursor) :=
  let ds := c.rest.takeWhile Char.isDigit
  if ds.isEmpty then c.fail "did not find expected version number" context
  else if 9 < ds.length then c.fail "found extremely long version number" context
  else .ok (ds.foldl (fun n d => n * 10 + (d.toNat - '0'.toNat)) 0, c.skip ds.length)

/-- Reads a directive. -/
def readDirective (c : Cursor) : Except Fault (TokenKind × Cursor) := do
  let context := some ("while scanning a directive", c.mark)
  let name := String.ofList ((c.rest.drop 1).takeWhile isNameChar)
  let next := c.skip (name.length + 1)
  let (kind, next) ←
    if name.isEmpty then next.fail "could not find expected directive name" context
    else if !startsBlank next.rest then
      next.fail "found unexpected non-alphabetical character" context
    else if name == "YAML" then do
      let context := some ("while scanning a %YAML directive", c.mark)
      let (major, next) ← readVersionNumber context (next.skipWhile isSpace)
      if next.starts '.' then do
        let (minor, next) ← readVersionNumber context (next.skip 1)
        pure (TokenKind.versionDirective major minor, next)
      else next.fail "did not find expected digit or '.' character" context
    else if name == "TAG" then do
      let context := some ("while scanning a %TAG directive", c.mark)
      let next := next.skipWhile isSpace
      let handle := next.rest.takeWhile fun d => d == '!' || isNameChar d
      let start := String.ofList handle
      if !handle.head? == some '!' || (handle.getLast? != some '!') then
        next.fail "did not find expected '!'" context
      else do
        let (address, next) ← readAddress true context ((next.skip handle.length).skipWhile isSpace)
        pure (.tagDirective start address, next)
    else next.fail "found unknown directive name" context
  let next := (next.skipWhile isSpace).skipComment
  match next.break?, next.rest with
  | some (_, next), _ => pure (kind, next)
  | none, [] => pure (kind, next)
  | none, _ => next.fail "did not find expected comment or line break" context

/-! ## Tokens -/

/-- A place where a key may have started without its sign. -/
structure PossibleKey where
  /-- The number of tokens in front of it. -/
  position : Nat
  mark : Mark
  /-- It must turn out to be a key. -/
  required : Bool

/-- What has been cut off so far, and what the next token depends on. -/
structure Lexer where
  cursor : Cursor
  tokens : Array Token := #[]
  /-- The indentation of the innermost block, and of those around it. -/
  indent : Int := -1
  outer : List Int := []
  /-- For each open bracket, and for the outside, the key that may have started, innermost first. -/
  keys : List (Option PossibleKey) := [none]
  /-- A key may start here without its sign. -/
  keyAllowed : Bool := true

namespace Lexer

/-- The cursor is within brackets. -/
def inFlow (l : Lexer) : Bool :=
  1 < l.keys.length

/-- The lexer with one more token. -/
def emit (l : Lexer) (kind : TokenKind) (mark : Mark) : Lexer :=
  { l with tokens := l.tokens.push { kind, mark } }

/-- Opens a block that is indented by `column`, unless one is open; its token goes to `position`. -/
def openBlock (l : Lexer) (column : Nat) (position : Nat) (kind : TokenKind) (mark : Mark) :
    Lexer :=
  if !l.inFlow && l.indent < column then
    { l with
      indent := column
      outer := l.indent :: l.outer
      tokens := l.tokens.insertIdxIfInBounds position { kind, mark } }
  else l

/-- Closes the blocks that are indented by more than `column`. -/
def closeBlocks (fuel : Nat) (column : Int) (l : Lexer) : Lexer :=
  match fuel with
  | 0 => l
  | fuel + 1 =>
    if !l.inFlow && column < l.indent then
      closeBlocks fuel column
        { l.emit .blockEnd l.cursor.mark with
          indent := l.outer.headD (-1)
          outer := l.outer.drop 1 }
    else l

/-- Closes the blocks that are indented by more than `column`. -/
def unindent (l : Lexer) (column : Int) : Lexer :=
  l.closeBlocks (l.outer.length + 1) column

/-- Gives up a possible key; one that is required is missed. -/
def dropKey (l : Lexer) : Except Fault Lexer :=
  match l.keys with
  | some k :: ks =>
    if k.required then
      l.cursor.fail "could not find expected ':'" (some ("while scanning a simple key", k.mark))
    else .ok { l with keys := none :: ks }
  | _ => .ok l

/-- Notes that a key may start here. -/
def noteKey (l : Lexer) : Except Fault Lexer :=
  if l.keyAllowed then do
    let l ← l.dropKey
    pure { l with
      keys := some
        { position := l.tokens.size
          mark := l.cursor.mark
          required := !l.inFlow && l.indent == l.cursor.mark.column } :: l.keys.drop 1 }
  else .ok l

/-- Gives up possible keys that started on another line or too far away. -/
def dropStale (l : Lexer) : Except Fault Lexer := do
  let stale (k : PossibleKey) : Bool :=
    k.mark.line < l.cursor.mark.line || k.mark.index + 1024 < l.cursor.mark.index
  match l.keys.findSome? fun k => k.filter fun k => stale k && k.required with
  | some k =>
    l.cursor.fail "could not find expected ':'" (some ("while scanning a simple key", k.mark))
  | none => pure { l with keys := l.keys.map fun k => k.filter (!stale ·) }

/-- Passes over blanks, comments and line ends. -/
def skipToToken (fuel : Nat) (l : Lexer) : Lexer :=
  match fuel with
  | 0 => l
  | fuel + 1 =>
    let tabs := l.inFlow || !l.keyAllowed
    let c := (l.cursor.skipWhile fun d => d == ' ' || (tabs && d == '\t')).skipComment
    match c.break? with
    | some (_, next) =>
      skipToToken fuel { l with cursor := next, keyAllowed := l.keyAllowed || !l.inFlow }
    | none => { l with cursor := c }

/-- The lexer behind a sign of `n` characters, which is a token. -/
def sign (l : Lexer) (kind : TokenKind) (n : Nat) : Lexer :=
  { l.emit kind l.cursor.mark with cursor := l.cursor.skip n }

/-- Ends all blocks in front of something that stands outside of documents. -/
def outside (l : Lexer) : Except Fault Lexer := do
  let l ← (l.unindent (-1)).dropKey
  pure { l with keyAllowed := false }

/-- Takes a bracket that opens. -/
def openFlow (l : Lexer) (kind : TokenKind) : Except Fault Lexer := do
  let l ← l.noteKey
  pure { l.sign kind 1 with keys := none :: l.keys, keyAllowed := true }

/-- Takes a bracket that closes. -/
def closeFlow (l : Lexer) (kind : TokenKind) : Except Fault Lexer := do
  let l ← l.dropKey
  let keys := if l.inFlow then l.keys.drop 1 else l.keys
  pure { l.sign kind 1 with keys, keyAllowed := false }

/-- Takes the sign of an item in a block. -/
def blockEntry (l : Lexer) : Except Fault Lexer := do
  if !l.inFlow && !l.keyAllowed then
    l.cursor.fail "block sequence entries are not allowed in this context"
  else
    let l := l.openBlock l.cursor.mark.column l.tokens.size .blockSequenceStart l.cursor.mark
    let l ← l.dropKey
    pure { l.sign .blockEntry 1 with keyAllowed := true }

/-- Takes the sign of a key. -/
def keySign (l : Lexer) : Except Fault Lexer := do
  if !l.inFlow && !l.keyAllowed then
    l.cursor.fail "mapping keys are not allowed in this context"
  else
    let l := l.openBlock l.cursor.mark.column l.tokens.size .blockMappingStart l.cursor.mark
    let l ← l.dropKey
    pure { l.sign .key 1 with keyAllowed := !l.inFlow }

/-- Takes the sign of a value. -/
def valueSign (l : Lexer) : Except Fault Lexer :=
  match l.keys with
  | some k :: ks =>
    let l := { l with tokens := l.tokens.insertIdxIfInBounds k.position ⟨.key, k.mark⟩ }
    let l := l.openBlock k.mark.column k.position .blockMappingStart k.mark
    .ok { l.sign .value 1 with keys := none :: ks, keyAllowed := false }
  | _ =>
    if !l.inFlow && !l.keyAllowed then
      l.cursor.fail "mapping values are not allowed in this context"
    else
      let l := l.openBlock l.cursor.mark.column l.tokens.size .blockMappingStart l.cursor.mark
      .ok { l.sign .value 1 with keyAllowed := !l.inFlow }

/-- Takes a token that may be a key and that `read` reads. -/
def keyLike (l : Lexer) (read : Cursor → Except Fault (TokenKind × Cursor)) :
    Except Fault Lexer := do
  let l ← l.noteKey
  let (kind, next) ← read l.cursor
  pure { l.emit kind l.cursor.mark with cursor := next, keyAllowed := false }

/-- Takes a plain scalar. -/
def plainScalar (l : Lexer) : Except Fault Lexer := do
  let l ← l.noteKey
  let c := l.cursor
  let (text, ended, next) ←
    readPlain (c.rest.length + 1) l.inFlow (l.indent + 1) c.mark [] {} c
  pure { l.emit (.scalar (String.ofList text) .plain) c.mark with
    cursor := next
    keyAllowed := ended }

/-- Takes a block scalar. -/
def blockScalar (l : Lexer) (literal : Bool) : Except Fault Lexer := do
  let l ← l.dropKey
  let (text, next) ← readBlock literal l.indent l.cursor
  pure { l.emit (.scalar text .block) l.cursor.mark with cursor := next, keyAllowed := true }

/-- Signs that cannot start a plain scalar. -/
def isIndicator (c : Char) : Bool :=
  ['-', '?', ':', ',', '[', ']', '\x7b', '\x7d', '#', '&', '*', '!', '|', '>', '\'', '"', '%', '@',
    '`'].contains c

/-- Takes the next token that is not the end of the document. -/
def token (l : Lexer) (d : Char) (cs : List Char) : Except Fault Lexer :=
  let c := l.cursor
  let alone := startsBlank cs
  if c.mark.column == 0 && d == '%' then do
    let l ← l.outside
    let (kind, next) ← readDirective l.cursor
    pure { l.emit kind l.cursor.mark with cursor := next }
  else if startsSeparator c.mark.column c.rest then do
    let l ← l.outside
    pure (l.sign (if d == '-' then .documentStart else .documentEnd) 3)
  else if d == '[' then l.openFlow .flowSequenceStart
  else if d == '\x7b' then l.openFlow .flowMappingStart
  else if d == ']' then l.closeFlow .flowSequenceEnd
  else if d == '\x7d' then l.closeFlow .flowMappingEnd
  else if d == ',' then do
    let l ← l.dropKey
    pure { l.sign .flowEntry 1 with keyAllowed := true }
  else if d == '-' && alone then l.blockEntry
  else if d == '?' && (l.inFlow || alone) then l.keySign
  else if d == ':' && (l.inFlow || alone) then l.valueSign
  else if d == '*' then
    l.keyLike fun c => (readName "an alias" c.mark (c.skip 1)).map fun (n, c) => (.alias n, c)
  else if d == '&' then
    l.keyLike fun c => (readName "an anchor" c.mark (c.skip 1)).map fun (n, c) => (.anchor n, c)
  else if d == '!' then l.keyLike (readTag l.inFlow)
  else if d == '|' && !l.inFlow then l.blockScalar true
  else if d == '>' && !l.inFlow then l.blockScalar false
  else if d == '\'' || d == '"' then
    l.keyLike fun c =>
      (readQuoted (c.rest.length + 1) (d == '\'') c.mark [] (c.skip 1)).map fun (text, c) =>
        (.scalar (String.ofList text) .quoted, c)
  else if !(isSpace d || isBreak d || isIndicator d) || (d == '-' && !cs.head?.any isSpace) ||
      (!l.inFlow && (d == '?' || d == ':') && !alone) then l.plainScalar
  else
    c.fail "found character that cannot start any token"
      (some ("while scanning for the next token", c.mark))

/-- Takes the rest of the tokens. -/
def run (fuel : Nat) (l : Lexer) : Array Token :=
  match fuel with
  | 0 => l.tokens
  | fuel + 1 =>
    let l := l.skipToToken (l.cursor.rest.length + 1)
    let failed (f : Fault) : Array Token := l.tokens.push ⟨.fault f, l.cursor.mark⟩
    match l.dropStale with
    | .error f => failed f
    | .ok l =>
      let l := l.unindent l.cursor.mark.column
      match l.cursor.rest with
      | [] =>
        match (l.unindent (-1)).dropKey with
        | .error f => failed f
        | .ok l => l.tokens.push ⟨.streamEnd, l.cursor.mark⟩
      | d :: cs =>
        match l.token d cs with
        | .error f => failed f
        | .ok l => run fuel l

end Lexer

/-- The tokens of a document. A byte order mark at its start is passed over. -/
def Token.scan (cs : List Char) : Array Token :=
  let cs := match cs with
    | '\ufeff' :: cs => cs
    | cs => cs
  Lexer.run (2 * cs.length + 2) { cursor := { rest := cs } }

end ChatCommand.Settings.Yaml
