import ChatCommand.Settings.Yaml.Scalar
import ChatCommand.Settings.Yaml.Token

/-!
# YAML documents

`Yaml.parse` reads a document into the table that it holds. A document without content holds the
empty table; a text with several documents is refused.
-/

namespace ChatCommand.Settings.Yaml

/-- A part of a document that has been read. -/
structure Part where
  data : Data
  /-- The text of a scalar, as keys need it. -/
  text? : Option String := none
  mark : Mark

/-- What is left to be read, and what has been named. -/
structure Source where
  tokens : List Token
  anchors : List (String × Part) := []
  /-- The beginnings of tags that handles stand for. -/
  handles : List (String × String) := []

namespace Source

/-- The next token. -/
def peek (s : Source) : Token :=
  s.tokens.headD ⟨.streamEnd, {}⟩

/-- The source behind the next token. -/
def next (s : Source) : Source :=
  { s with tokens := s.tokens.drop 1 }

/-- There is a problem at the next token; what the tokens cannot say goes before it. -/
def fail {α : Type} (s : Source) (problem : String) (context : Option (String × Mark) := none) :
    Except Fault α :=
  match s.peek.kind with
  | .fault f => .error f
  | _ => .error { problem, mark := s.peek.mark, context }

/-- The next token is of the kind that `p` accepts. -/
def at? (s : Source) (p : TokenKind → Bool) : Bool :=
  p s.peek.kind

end Source

/-- The kinds of tokens that the grammar asks about. -/
def TokenKind.isKey : TokenKind → Bool
  | key => true
  | _ => false

@[inherit_doc TokenKind.isKey]
def TokenKind.isValue : TokenKind → Bool
  | value => true
  | _ => false

@[inherit_doc TokenKind.isKey]
def TokenKind.isBlockEnd : TokenKind → Bool
  | blockEnd => true
  | _ => false

@[inherit_doc TokenKind.isKey]
def TokenKind.isBlockEntry : TokenKind → Bool
  | blockEntry => true
  | _ => false

@[inherit_doc TokenKind.isKey]
def TokenKind.isFlowEntry : TokenKind → Bool
  | flowEntry => true
  | _ => false

@[inherit_doc TokenKind.isKey]
def TokenKind.isFlowSequenceEnd : TokenKind → Bool
  | flowSequenceEnd => true
  | _ => false

@[inherit_doc TokenKind.isKey]
def TokenKind.isFlowMappingEnd : TokenKind → Bool
  | flowMappingEnd => true
  | _ => false

/-- What stands in front of the content of a part. -/
structure Properties where
  anchor : Option String := none
  tag : Option String := none

/-- The tag that a handle and a suffix stand for. -/
def resolveTag (s : Source) (start tagMark : Mark) (handle suffix : String) :
    Except Fault String :=
  if handle.isEmpty then .ok suffix
  else
    match s.handles.lookup handle with
    | some beginning => .ok (beginning ++ suffix)
    | none =>
      .error
        { problem := "found undefined tag handle"
          mark := tagMark
          context := some ("while parsing a node", start) }

/-- Reads an anchor and a tag, in any order. -/
def readProperties (s : Source) : Except Fault (Properties × Source) :=
  let start := s.peek.mark
  match s.peek.kind with
  | .anchor name =>
    let rest := s.next
    match rest.peek.kind with
    | .tag handle suffix => do
      let tag ← resolveTag s start rest.peek.mark handle suffix
      pure ({ anchor := some name, tag := some tag }, rest.next)
    | _ => pure ({ anchor := some name }, rest)
  | .tag handle suffix => do
    let tag ← resolveTag s start start handle suffix
    let rest := s.next
    match rest.peek.kind with
    | .anchor name => pure ({ anchor := some name, tag := some tag }, rest.next)
    | _ => pure ({ tag := some tag }, rest)
  | _ => .ok ({}, s)

/-- The name of a tag that the document itself defines. -/
def localName? (tag : Option String) : Option String :=
  match tag.map String.toList with
  | some ('!' :: cs) => some (String.ofList cs)
  | _ => none

/-- Data under a tag: a tag of the document's own makes a table with one entry. -/
def tagged (tag : Option String) (d : Data) : Data :=
  match localName? tag with
  | some name => .table [(name, d)]
  | none => d

/-- What a scalar stands for under its tag. -/
def scalarData (tag : Option String) (text : String) (style : Style) (mark : Mark) :
    Except Fault Data :=
  let refuse (expected : String) : Except Fault Data :=
    .error {
      problem := "invalid value: string " ++ Text.quoted text ++ ", expected " ++ expected, mark }
  let accept (s : Option Scalar) (expected : String) : Except Fault Data :=
    match s with
    | some s => .ok (.scalar s)
    | none => refuse expected
  match tag with
  | some "tag:yaml.org,2002:bool" => accept ((bool? text).map .bool) "a boolean"
  | some "tag:yaml.org,2002:int" => accept (integer? text.toList) "an integer"
  | some "tag:yaml.org,2002:float" => accept ((float? text.toList).map .float) "a float"
  | some "tag:yaml.org,2002:null" => accept (if isNull text then some .null else none) "null"
  | tag =>
    let plain := style = .plain ∧ (tag = none ∨ (localName? tag).isSome)
    .ok (tagged tag (.scalar (if plain then plainScalar text else .text text)))

/-- The part without content. -/
def emptyPart (tag : Option String) (mark : Mark) : Except Fault Part :=
  (scalarData tag "" .plain mark).map fun data => { data, text? := some "", mark }

/-- The source once a part has been named. -/
def Source.name (s : Source) (anchor : Option String) (p : Part) : Source :=
  match anchor with
  | some a => { s with anchors := (a, p) :: s.anchors }
  | none => s

/-- The text of a part that is a key. -/
def keyText (p : Part) : Except Fault String :=
  match p.text?, p.data with
  | some s, _ => .ok s
  | none, .list _ =>
    .error { problem := "invalid type: sequence, expected a string", mark := p.mark }
  | none, _ => .error { problem := "invalid type: map, expected a string", mark := p.mark }

/-- The entries of a table; of two with one key the later counts. -/
def entriesOf (pairs : List (Part × Part)) : Except Fault (List (String × Data)) :=
  pairs.mapM fun (k, v) => (keyText k).map (·, v.data)

mutual

/-- Reads a part. In a block it may be a block itself; `indentless` items may stand under a key at
the indentation of the key. -/
def part (fuel : Nat) (block indentless : Bool) (s : Source) : Except Fault (Part × Source) :=
  match fuel with
  | 0 => s.fail "recursion limit exceeded"
  | fuel + 1 => do
    let mark := s.peek.mark
    match s.peek.kind with
    | .alias name =>
      match s.anchors.lookup name with
      | some p => pure ({ p with mark }, s.next)
      | none => .error { problem := "unknown anchor", mark }
    | _ =>
      let (ps, rest) ← readProperties s
      let done (d : Data) (text? : Option String) (s : Source) : Part × Source :=
        let p : Part := { data := d, text?, mark }
        (p, s.name ps.anchor p)
      match rest.peek.kind with
      | .blockEntry =>
        if indentless then do
          let (items, rest) ← indentlessItems fuel rest
          pure (done (tagged ps.tag (.list items)) none rest)
        else noContent fuel block ps mark rest
      | .scalar text style => do
        let d ← scalarData ps.tag text style mark
        pure (done d (some text) rest.next)
      | .flowSequenceStart => do
        let (items, rest) ← flowItems fuel true mark rest.next
        pure (done (tagged ps.tag (.list items)) none rest)
      | .flowMappingStart => do
        let (pairs, rest) ← flowPairs fuel true mark rest.next
        let es ← entriesOf pairs
        pure (done (tagged ps.tag (.table es)) none rest)
      | .blockSequenceStart =>
        if block then do
          let (items, rest) ← blockItems fuel mark rest.next
          pure (done (tagged ps.tag (.list items)) none rest)
        else noContent fuel block ps mark rest
      | .blockMappingStart =>
        if block then do
          let (pairs, rest) ← blockPairs fuel mark rest.next
          let es ← entriesOf pairs
          pure (done (tagged ps.tag (.table es)) none rest)
        else noContent fuel block ps mark rest
      | _ => noContent fuel block ps mark rest

/-- Reads a part that has properties at most. -/
def noContent (fuel : Nat) (block : Bool) (ps : Properties) (mark : Mark) (s : Source) :
    Except Fault (Part × Source) :=
  match fuel with
  | 0 => s.fail "recursion limit exceeded"
  | _ + 1 =>
    if ps.anchor.isSome || ps.tag.isSome then
      match s.peek.kind with
      | .fault f => .error f
      | _ => do
        let p ← emptyPart ps.tag mark
        pure (p, s.name ps.anchor p)
    else
      s.fail "did not find expected node content"
        (some ((if block then "while parsing a block node" else "while parsing a flow node"), mark))

/-- Reads a part unless a token that `stop` accepts comes first; then the part is empty. -/
def partUnless (fuel : Nat) (stop : TokenKind → Bool) (block indentless : Bool) (s : Source) :
    Except Fault (Part × Source) :=
  match fuel with
  | 0 => s.fail "recursion limit exceeded"
  | fuel + 1 =>
    if s.at? stop then (emptyPart none s.peek.mark).map (·, s) else part fuel block indentless s

/-- Reads the items of a block. -/
def blockItems (fuel : Nat) (start : Mark) (s : Source) : Except Fault (List Data × Source) :=
  match fuel with
  | 0 => s.fail "recursion limit exceeded"
  | fuel + 1 =>
    match s.peek.kind with
    | .blockEntry => do
      let (p, rest) ← partUnless fuel (fun k => k.isBlockEntry || k.isBlockEnd) true false s.next
      let (items, rest) ← blockItems fuel start rest
      pure (p.data :: items, rest)
    | .blockEnd => .ok ([], s.next)
    | _ =>
      s.fail "did not find expected '-' indicator"
        (some ("while parsing a block collection", start))

/-- Reads items that are not indented. -/
def indentlessItems (fuel : Nat) (s : Source) : Except Fault (List Data × Source) :=
  match fuel with
  | 0 => s.fail "recursion limit exceeded"
  | fuel + 1 =>
    match s.peek.kind with
    | .blockEntry => do
      let (p, rest) ← partUnless fuel
        (fun k => k.isBlockEntry || k.isKey || k.isValue || k.isBlockEnd) true false s.next
      let (items, rest) ← indentlessItems fuel rest
      pure (p.data :: items, rest)
    | _ => .ok ([], s)

/-- Reads the entries of a block. -/
def blockPairs (fuel : Nat) (start : Mark) (s : Source) :
    Except Fault (List (Part × Part) × Source) :=
  match fuel with
  | 0 => s.fail "recursion limit exceeded"
  | fuel + 1 =>
    match s.peek.kind with
    | .key => do
      let stop (k : TokenKind) : Bool := k.isKey || k.isValue || k.isBlockEnd
      let (k, rest) ← partUnless fuel stop true true s.next
      let (v, rest) ←
        if rest.at? TokenKind.isValue then partUnless fuel stop true true rest.next
        else (emptyPart none rest.peek.mark).map (·, rest)
      let (pairs, rest) ← blockPairs fuel start rest
      pure ((k, v) :: pairs, rest)
    | .blockEnd => .ok ([], s.next)
    | _ => s.fail "did not find expected key" (some ("while parsing a block mapping", start))

/-- Reads the items in square brackets. An entry among them is a table of its own. -/
def flowItems (fuel : Nat) (first : Bool) (start : Mark) (s : Source) :
    Except Fault (List Data × Source) :=
  match fuel with
  | 0 => s.fail "recursion limit exceeded"
  | fuel + 1 =>
    if s.at? TokenKind.isFlowSequenceEnd then .ok ([], s.next)
    else do
      let s ←
        if first then pure s
        else if s.at? TokenKind.isFlowEntry then pure s.next
        else
          s.fail "did not find expected ',' or ']'" (some ("while parsing a flow sequence", start))
      match s.peek.kind with
      | .flowSequenceEnd => pure ([], s.next)
      | .key => do
        let stop (k : TokenKind) : Bool := k.isFlowEntry || k.isFlowSequenceEnd
        let (k, rest) ← partUnless fuel (fun k => k.isValue || stop k) false false s.next
        let (v, rest) ←
          if rest.at? TokenKind.isValue then partUnless fuel stop false false rest.next
          else (emptyPart none rest.peek.mark).map (·, rest)
        let es ← entriesOf [(k, v)]
        let (items, rest) ← flowItems fuel false start rest
        pure (.table es :: items, rest)
      | _ => do
        let (p, rest) ← part fuel false false s
        let (items, rest) ← flowItems fuel false start rest
        pure (p.data :: items, rest)

/-- Reads the entries in braces. -/
def flowPairs (fuel : Nat) (first : Bool) (start : Mark) (s : Source) :
    Except Fault (List (Part × Part) × Source) :=
  match fuel with
  | 0 => s.fail "recursion limit exceeded"
  | fuel + 1 =>
    if s.at? TokenKind.isFlowMappingEnd then .ok ([], s.next)
    else do
      let s ←
        if first then pure s
        else if s.at? TokenKind.isFlowEntry then pure s.next
        else
          s.fail "did not find expected ',' or '\x7d'"
            (some ("while parsing a flow mapping", start))
      let stop (k : TokenKind) : Bool := k.isFlowEntry || k.isFlowMappingEnd
      match s.peek.kind with
      | .flowMappingEnd => pure ([], s.next)
      | .key => do
        let (k, rest) ← partUnless fuel (fun k => k.isValue || stop k) false false s.next
        let (v, rest) ←
          if rest.at? TokenKind.isValue then partUnless fuel stop false false rest.next
          else (emptyPart none rest.peek.mark).map (·, rest)
        let (pairs, rest) ← flowPairs fuel false start rest
        pure ((k, v) :: pairs, rest)
      | _ => do
        let (k, rest) ← part fuel false false s
        let v ← emptyPart none rest.peek.mark
        let (pairs, rest) ← flowPairs fuel false start rest
        pure ((k, v) :: pairs, rest)

end

/-! ## Documents -/

/-- The handles that every document knows. -/
def knownHandles : List (String × String) :=
  [("!", "!"), ("!!", "tag:yaml.org,2002:")]

/-- Reads the directives of a document. -/
def directives (fuel : Nat) (versioned : Bool) (s : Source) : Except Fault (Bool × Source) :=
  match fuel with
  | 0 => .ok (versioned, s)
  | fuel + 1 =>
    match s.peek.kind with
    | .versionDirective major minor =>
      if versioned then s.fail "found duplicate %YAML directive"
      else if major != 1 || (minor != 1 && minor != 2) then
        s.fail "found incompatible YAML document"
      else directives fuel true s.next
    | .tagDirective handle beginning =>
      if (s.handles.lookup handle).isSome then s.fail "found duplicate %TAG directive"
      else directives fuel versioned
        { s.next with handles := (handle, beginning) :: s.handles }
    | _ => .ok (versioned, { s with handles := s.handles ++ knownHandles })

/-- The source behind tokens that end documents. -/
def skipEnds (fuel : Nat) (s : Source) : Source :=
  match fuel, s.peek.kind with
  | fuel + 1, .documentEnd => skipEnds fuel s.next
  | _, _ => s

/-- Moves to the content of the first document; none if there is no document. -/
def openDocument (s : Source) : Except Fault (Option Source) :=
  match s.peek.kind with
  | .fault f => .error f
  | .versionDirective _ _ | .tagDirective _ _ | .documentStart | .streamEnd | .documentEnd => do
    let s := skipEnds s.tokens.length s
    match s.peek.kind with
    | .streamEnd => pure none
    | _ =>
      let (_, s) ← directives s.tokens.length false s
      match s.peek.kind with
      | .documentStart => pure (some s.next)
      | _ => s.fail "did not find expected <document start>"
  | _ => .ok (some { s with handles := knownHandles })

/-- Refuses what follows the first document, unless it is nothing. -/
def closeDocument (s : Source) : Except Fault Unit :=
  match s.peek.kind with
  | .fault f => .error f
  | _ =>
    match (skipEnds s.tokens.length s).peek.kind with
    | .streamEnd => .ok ()
    | _ =>
      .error
        { problem := "deserializing from YAML containing more than one document is not supported"
          mark := {} }

/-- What stands at the root is no table. -/
def noTable {α : Type} (found : String) (mark : Mark) : Except Fault α :=
  .error { problem := "invalid type: " ++ found ++ ", expected a map", mark }

/-- Reads the root of a document, which must be a table. -/
def root (s : Source) : Except Fault (List (String × Data) × Source) := do
  let mark := s.peek.mark
  let (_, rest) ← readProperties s
  match rest.peek.kind with
  | .scalar text style =>
    noTable (describe (if style = .plain then plainScalar text else .text text)) mark
  | .flowSequenceStart | .blockSequenceStart | .blockEntry => noTable "sequence" mark
  | .documentStart | .documentEnd | .streamEnd | .versionDirective _ _ | .tagDirective _ _ =>
    noTable (describe .null) mark
  | _ =>
    let (p, rest) ← part (2 * rest.tokens.length + 2) true false rest
    match p.data with
    | .table es => pure (es, rest)
    | _ => noTable "sequence" mark

/-- A character that may stand in a document. -/
def isAllowed (c : Char) : Bool :=
  let n := c.toNat
  n == 0x09 || n == 0x0A || n == 0x0D || (0x20 ≤ n && n ≤ 0x7E) || n == 0x85 ||
    (0xA0 ≤ n && n ≤ 0xD7FF) || (0xE000 ≤ n && n ≤ 0xFFFD) || 0x10000 ≤ n

/-- The fault in a text that holds a character which may not stand in a document. -/
def controlFault (before : List Char) : String :=
  let n := before.foldl (fun n c => n + c.utf8Size) 0
  "control characters are not allowed" ++ if n = 0 then "" else " at position " ++ toString n

/-- The table that a document holds, or what is wrong with it. -/
def parse (text : String) : Except String Data :=
  let cs := text.toList
  if cs.all isAllowed then
    let result : Except Fault Data := do
      match ← openDocument { tokens := (Token.scan cs).toList } with
      | none => pure (.table [])
      | some s =>
        let (es, s) ← root s
        closeDocument s
        pure (.table es)
    result.mapError Fault.message
  else .error (controlFault (cs.takeWhile isAllowed))

end ChatCommand.Settings.Yaml
