import ChatCommand.Settings.Tree

/-!
# YAML scalars

What a plain scalar stands for: nothing, a truth value, a number, or else its own text.
-/

namespace ChatCommand.Settings.Yaml

/-- The text stands for nothing. -/
def isNull (s : String) : Bool :=
  s.isEmpty || ["null", "Null", "NULL", "~"].contains s

/-- The truth value that a text stands for. -/
def bool? (s : String) : Option Bool :=
  if ["true", "True", "TRUE"].contains s then some true
  else if ["false", "False", "FALSE"].contains s then some false
  else none

/-- The value of a digit in a base up to sixteen. -/
def digitIn? (base : Nat) (c : Char) : Option Nat :=
  let d :=
    if c.isDigit then c.toNat - '0'.toNat
    else if 'a' ≤ c && c ≤ 'f' then c.toNat - 'a'.toNat + 10
    else if 'A' ≤ c && c ≤ 'F' then c.toNat - 'A'.toNat + 10
    else 16
  if d < base then some d else none

/-- The value of digits in a base, at least one. -/
def digitsIn? (base : Nat) (cs : List Char) : Option Nat :=
  if cs.isEmpty then none
  else cs.foldlM (fun n c => (digitIn? base c).map (n * base + ·)) 0

/-- Digits that start with a zero which is not needed; they are a text. -/
def isPadded (cs : List Char) : Bool :=
  let cs := match cs with
    | '-' :: cs | '+' :: cs => cs
    | cs => cs
  match cs with
  | '0' :: d :: ds => (d :: ds).all Char.isDigit
  | _ => false

/-- The number that digits stand for, in the base that their start names. -/
def magnitude? (cs : List Char) : Option Nat :=
  match cs with
  | '0' :: 'x' :: cs => digitsIn? 16 cs
  | '0' :: 'o' :: cs => digitsIn? 8 cs
  | '0' :: 'b' :: cs => digitsIn? 2 cs
  | cs => if isPadded cs then none else digitsIn? 10 cs

/-- The whole number that a text stands for. It fits into 128 bits. -/
def integer? (cs : List Char) : Option Scalar :=
  match cs with
  | '-' :: cs =>
    match magnitude? cs with
    | some n =>
      if n ≤ 0x80000000000000000000000000000000 then some (.integer (-(n : Int))) else none
    | none => none
  | cs =>
    let cs := match cs with
      | '+' :: cs => cs
      | cs => cs
    match magnitude? cs with
    | some n => if n < 0x100000000000000000000000000000000 then some (.natural n) else none
    | none => none

/-- The number that a text with a point or an exponent stands for. -/
def float? (cs : List Char) : Option Number.Binary64 :=
  let bare := match cs with
    | '+' :: '+' :: _ | '+' :: '-' :: _ => none
    | '+' :: cs => some cs
    | cs => some cs
  match bare with
  | none => none
  | some bare =>
    let name := String.ofList bare
    if [".inf", ".Inf", ".INF"].contains name then some ⟨Number.Binary64.infinityBits⟩
    else if ["-.inf", "-.Inf", "-.INF"].contains (String.ofList cs) then
      some ⟨Number.Binary64.infinityBits + Number.Binary64.signBit⟩
    else if [".nan", ".NaN", ".NAN"].contains (String.ofList cs) then
      some ⟨Number.Binary64.nanBits⟩
    else
      match Number.Binary64.read? bare with
      | some x =>
        if x.bits % Number.Binary64.signBit < Number.Binary64.infinityBits then some x else none
      | none => none

/-- What a plain scalar stands for. -/
def plainScalar (s : String) : Scalar :=
  if isNull s then .null
  else
    match bool? s, integer? s.toList with
    | some b, _ => .bool b
    | none, some i => i
    | none, none =>
      if isPadded s.toList then .text s
      else
        match float? s.toList with
        | some x => .float x
        | none => .text s

/-- A number in words, with a point. -/
def floatText (x : Number.Binary64) : String :=
  let s := x.text
  if s.toList.all fun c => c.isDigit || c == '-' then s ++ ".0" else s

/-- A scalar in words, as what stands where a table was expected. -/
def describe : Scalar → String
  | .null => "unit value"
  | .bool b => "boolean `" ++ (if b then "true" else "false") ++ "`"
  | .natural n => "integer `" ++ toString n ++ "`"
  | .integer i => "integer `" ++ toString i ++ "`"
  | .float x => "floating point `" ++ floatText x ++ "`"
  | .char c => "string " ++ Text.quoted (String.singleton c)
  | .text s => "string " ++ Text.quoted s

end ChatCommand.Settings.Yaml
