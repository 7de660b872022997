import ChatCommand.Log.Event
import ChatCommand.Number.Binary64
import ChatCommand.Number.Integer
import ChatCommand.Regex.Match
import ChatCommand.Regex.Syntax
import ChatCommand.Text.Blank
import ChatCommand.Text.Letter

/-!
# Directives

A directive sets the least severe level that is logged by a part of the program. It is written
`TARGET=LEVEL`; a level alone is for the whole program, a target alone logs all there is. Behind the
target, `[SPAN{FIELD=VALUE}]` makes it a directive for what happens within such a span.
-/

namespace ChatCommand.Log

/-- The least severe level that is logged; none if nothing is. -/
abbrev Threshold := Option Level

namespace Threshold

/-- Events of the level are logged. -/
def admits (t : Threshold) (l : Level) : Bool :=
  match t with
  | some least => least.severity ≤ l.severity
  | none => false

/-- The number of levels that are logged. -/
def breadth (t : Threshold) : Nat :=
  (Level.all.filter t.admits).length

/-- The threshold of a number from 0 for nothing to 5 for all, or of a name in any case. -/
def read? (cs : List Char) : Option Threshold :=
  match Number.readNatural 18446744073709551615 cs with
  | .ok 0 => some none
  | .ok 1 => some (some .error)
  | .ok 2 => some (some .warn)
  | .ok 3 => some (some .info)
  | .ok 4 => some (some .debug)
  | .ok 5 => some (some .trace)
  | _ =>
    let name := String.ofList (cs.map Char.toLower)
    if name == "off" then some none
    else (Level.all.find? (·.name == name)).map some

end Threshold

/-- What the value of a field has to be. -/
inductive ValueTest where
  | number (n : Nat)
  /-- The pattern has to match up to the end of the text. -/
  | pattern (r : Regex)
  /-- A kind of value that no field has. -/
  | foreign

/-- What a directive asks of a field of a span. -/
structure FieldTest where
  name : String
  value : Option ValueTest

/-- A directive. -/
structure Directive where
  target : Option String := none
  /-- The name of the spans in which it holds. -/
  span : Option String := none
  fields : List FieldTest := []
  threshold : Threshold := some .trace

/-- Why a directive cannot be read. -/
inductive DirectiveFault where
  | malformed
  | badLevel
  | badField
deriving DecidableEq, Repr

/-- The fault in words. -/
def DirectiveFault.message : DirectiveFault → String
  | malformed => "invalid filter directive"
  | badLevel =>
    "error parsing level filter: expected one of \"off\", \"error\", \"warn\", \"info\", " ++
      "\"debug\", \"trace\", or a number 0-5"
  | badField => "invalid field filter"

namespace ValueTest

/-- The value passes the test. -/
def accepts (v : ValueTest) (x : Value) : Bool :=
  match v, x with
  | number n, .number m => n == m
  | pattern r, .shown s | pattern r, .quoted s =>
    match r.find s with
    | some found => found.span.stop == s.length
    | none => false
  | _, _ => false

/-- The test that is written in this way. -/
def read? (cs : List Char) : Option ValueTest :=
  let s := String.ofList cs
  match Number.readNatural 18446744073709551615 cs with
  | .ok n => some (number n)
  | .error _ =>
    if s == "true" || s == "false" || (Number.Binary64.read? cs).isSome then some foreign
    else
      match Regex.parse s with
      | .ok r => some (pattern r)
      | .error _ => none

end ValueTest

/-- Reads a test of a field: its name, and a value behind a sign of equality. -/
def FieldTest.read (cs : List Char) : Except DirectiveFault FieldTest :=
  let name := String.ofList (cs.takeWhile (· != '='))
  match cs.dropWhile (· != '=') with
  | [] => if cs.isEmpty then .error .malformed else .ok { name, value := none }
  | _ :: value =>
    match ValueTest.read? (value.takeWhile (· != '=')) with
    | some v => .ok { name, value := some v }
    | none => .error .badField

/-! ## Reading directives -/

namespace Directive

/-- Where in a directive a reader is. Parts that are not finished have their start. -/
inductive Place where
  | beginning
  /-- In a target, or in a level that stands alone. -/
  | head (start : Nat)
  | span (start : Nat)
  | field (start : Nat)
  /-- Behind the fields. -/
  | fieldsEnd
  /-- Behind the span. -/
  | spanEnd
  | level (start : Nat)
  /-- Behind everything. -/
  | finished
deriving DecidableEq, Repr

/-- The characters from one position to another. -/
def slice (cs : List Char) (start stop : Nat) : List Char :=
  (cs.take stop).drop start

/-- A level that stands alone, or else a target that logs all there is. -/
def ofHead (d : Directive) (head : List Char) : Directive :=
  match Threshold.read? head with
  | some threshold => { d with threshold }
  | none => { d with target := some (String.ofList head) }

/-- Reads a level; nothing stands for all there is. -/
def withLevel (d : Directive) (level : List Char) : Except DirectiveFault Directive :=
  if level.isEmpty then .ok d
  else
    match Threshold.read? level with
    | some threshold => .ok { d with threshold }
    | none => .error .badLevel

/-- The directive with one more test of a field. -/
def withField (d : Directive) (field : List Char) : Except DirectiveFault Directive := do
  let f ← FieldTest.read field
  pure { d with fields := d.fields ++ [f] }

/-- A character that a directive may start with. -/
def isStart (c : Char) : Bool :=
  c == '-' || c == ':' || c == '_' || Text.isLetter c || Text.isNumeral c

/-- Reads the character at position `i` of the directive `cs`. -/
def step (cs : List Char) :
    Place × Directive → Char × Nat → Except DirectiveFault (Place × Directive)
  | (.beginning, d), (c, i) =>
    if c == '[' then .ok (.span (i + 1), d)
    else if isStart c then .ok (.head i, d)
    else .error .malformed
  | (.head start, d), ('=', i) =>
    .ok (.level (i + 1), { d with target := some (String.ofList (slice cs start i)) })
  | (.head start, d), ('[', i) =>
    .ok (.span (i + 1), { d with target := some (String.ofList (slice cs start i)) })
  | (.head start, d), (',', _) => .ok (.finished, d.ofHead (cs.drop start))
  | (.span start, d), (']', i) =>
    .ok (.spanEnd, { d with span := some (String.ofList (slice cs start i)) })
  | (.span start, d), ('\x7b', i) =>
    let name := slice cs start i
    .ok (.field (i + 1), if name.isEmpty then d else { d with span := some (String.ofList name) })
  | (.field start, d), ('\x7d', i) => do
    pure (.fieldsEnd, ← d.withField (slice cs start i))
  | (.field start, d), (',', i) => do
    pure (.field (i + 1), ← d.withField (slice cs start i))
  | (.fieldsEnd, d), (']', _) => .ok (.spanEnd, d)
  | (.spanEnd, d), ('=', i) => .ok (.level (i + 1), d)
  | (.level start, d), (',', i) => do
    pure (.finished, ← d.withLevel (slice cs start i))
  | (.head start, d), _ => .ok (.head start, d)
  | (.span start, d), _ => .ok (.span start, d)
  | (.field start, d), _ => .ok (.field start, d)
  | (.level start, d), _ => .ok (.level start, d)
  | (.fieldsEnd, _), _ | (.spanEnd, _), _ | (.finished, _), _ => .error .malformed

/-- The directive once all has been read. -/
def finish (cs : List Char) : Place × Directive → Except DirectiveFault Directive
  | (.head start, d) => .ok (d.ofHead (cs.drop start))
  | (.level start, d) => d.withLevel (cs.drop start)
  | (.spanEnd, d) | (.finished, d) => .ok d
  | (.beginning, _) | (.span _, _) | (.field _, _) | (.fieldsEnd, _) => .error .malformed

/-- Reads a directive. Blanks around it are passed over, but positions count from the first
character that is no blank, so that blanks in front shift what is cut out. -/
def read (s : String) : Except DirectiveFault Directive := do
  let cs := s.toList
  let last ← (Text.trimBlanks cs).zipIdx.foldlM (step cs) (.beginning, {})
  finish cs last

end Directive

end ChatCommand.Log
