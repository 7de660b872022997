import ChatCommand.Number.Binary64
import ChatCommand.Text.Digit

/-!
# TOML lexemes

The pieces of a TOML document below the level of values: blanks, comments, line ends, texts in
quotes, keys, numbers and dates. Every reader takes the characters that are left and returns what it
read with the rest, or nothing.
-/

namespace ChatCommand.Settings.Toml

/-- A reader: what it read, and the characters behind it. -/
abbrev Reader (α : Type) := List Char → Option (α × List Char)

/-- A blank within a line. -/
def isSpace (c : Char) : Bool :=
  c == ' ' || c == '\t'

/-- The characters behind blanks. -/
def skipSpaces (cs : List Char) : List Char :=
  cs.dropWhile isSpace

/-- A character that may stand in a comment. -/
def inComment (c : Char) : Bool :=
  c == '\t' || (' ' ≤ c && c != '\x7f')

/-- The characters behind a comment, if there is one. -/
def skipComment : List Char → List Char
  | '#' :: cs => cs.dropWhile inComment
  | cs => cs

/-- The characters behind a line end. -/
def lineEnd? : List Char → Option (List Char)
  | '\n' :: cs => some cs
  | '\r' :: '\n' :: cs => some cs
  | _ => none

/-- The characters behind blanks, comments and line ends. -/
def skipLines (fuel : Nat) (cs : List Char) : List Char :=
  match fuel with
  | 0 => cs
  | fuel + 1 =>
    let rest := skipComment (skipSpaces cs)
    match lineEnd? rest with
    | some cs => skipLines fuel cs
    | none => rest

/-! ## Texts -/

/-- The character that is written with `n` hexadecimal digits. -/
def hexChar (n : Nat) : Reader Char := fun cs =>
  let digits := cs.take n
  if digits.length < n then none
  else
    match Text.hexNumber? digits with
    | some v => if v.isValidChar then some (Char.ofNat v, cs.drop n) else none
    | none => none

/-- The character that an escape stands for, behind its backslash. -/
def escaped : Reader Char
  | 'b' :: cs => some ('\x08', cs)
  | 't' :: cs => some ('\t', cs)
  | 'n' :: cs => some ('\n', cs)
  | 'f' :: cs => some ('\x0c', cs)
  | 'r' :: cs => some ('\r', cs)
  | '"' :: cs => some ('"', cs)
  | '\\' :: cs => some ('\\', cs)
  | 'u' :: cs => hexChar 4 cs
  | 'U' :: cs => hexChar 8 cs
  | _ => none

/-- The rest of a text in double quotes on one line. -/
def basicRest (fuel : Nat) (text : List Char) : Reader String := fun cs =>
  match fuel, cs with
  | 0, _ | _, [] => none
  | _ + 1, '"' :: cs => some (String.ofList text.reverse, cs)
  | fuel + 1, '\\' :: cs => do
    let (c, cs) ← escaped cs
    basicRest fuel (c :: text) cs
  | fuel + 1, c :: cs => if inComment c then basicRest fuel (c :: text) cs else none

/-- The rest of a text in single quotes on one line. -/
def literalRest (text : List Char) : Reader String
  | [] => none
  | '\'' :: cs => some (String.ofList text.reverse, cs)
  | c :: cs => if inComment c then literalRest (c :: text) cs else none

/-- The characters behind a backslash at the end of a line, and all blanks and line ends. -/
def skipFold (fuel : Nat) (cs : List Char) : List Char :=
  match fuel with
  | 0 => cs
  | fuel + 1 =>
    let rest := skipSpaces cs
    match lineEnd? rest with
    | some cs => skipFold fuel cs
    | none => rest

/-- The closing quotes of a text over several lines; up to two more belong to the text. -/
def closingQuotes (q : Char) (text : List Char) : Reader String := fun cs =>
  let n := (cs.takeWhile (· == q)).length
  let extra := min (n - 3) 2
  if n < 3 then none
  else some (String.ofList (text.reverse ++ List.replicate extra q), cs.drop (extra + 3))

/-- The rest of a text in double quotes over several lines. -/
def basicLines (fuel : Nat) (text : List Char) : Reader String := fun cs =>
  match fuel, cs with
  | 0, _ | _, [] => none
  | fuel + 1, '"' :: cs =>
    match closingQuotes '"' text ('"' :: cs) with
    | some r => some r
    | none => basicLines fuel ('"' :: text) cs
  | fuel + 1, '\\' :: cs =>
    match lineEnd? (skipSpaces cs) with
    | some cs => basicLines fuel text (skipFold cs.length cs)
    | none => do
      let (c, cs) ← escaped cs
      basicLines fuel (c :: text) cs
  | fuel + 1, c :: cs =>
    match lineEnd? (c :: cs) with
    | some cs => basicLines fuel ('\n' :: text) cs
    | none => if inComment c then basicLines fuel (c :: text) cs else none

/-- The rest of a text in single quotes over several lines. -/
def literalLines (fuel : Nat) (text : List Char) : Reader String := fun cs =>
  match fuel, cs with
  | 0, _ | _, [] => none
  | fuel + 1, '\'' :: cs =>
    match closingQuotes '\'' text ('\'' :: cs) with
    | some r => some r
    | none => literalLines fuel ('\'' :: text) cs
  | fuel + 1, c :: cs =>
    match lineEnd? (c :: cs) with
    | some cs => literalLines fuel ('\n' :: text) cs
    | none => if inComment c then literalLines fuel (c :: text) cs else none

/-- A line end right behind the opening quotes does not belong to the text. -/
def firstLine (cs : List Char) : List Char :=
  (lineEnd? cs).getD cs

/-- A text in quotes. -/
def quotedText : Reader String
  | '"' :: '"' :: '"' :: cs => basicLines (cs.length + 1) [] (firstLine cs)
  | '\'' :: '\'' :: '\'' :: cs => literalLines (cs.length + 1) [] (firstLine cs)
  | '"' :: cs => basicRest (cs.length + 1) [] cs
  | '\'' :: cs => literalRest [] cs
  | _ => none

/-! ## Keys -/

/-- A character of a key without quotes. -/
def isKeyChar (c : Char) : Bool :=
  c.isAlphanum || c == '_' || c == '-'

/-- One part of a key. -/
def keyPart : Reader String
  | '"' :: cs => basicRest (cs.length + 1) [] cs
  | '\'' :: cs => literalRest [] cs
  | cs =>
    let part := cs.takeWhile isKeyChar
    if part.isEmpty then none else some (String.ofList part, cs.dropWhile isKeyChar)

/-- A key: its parts, with points between them. Blanks around the parts are passed over. -/
def key (fuel : Nat) : Reader (List String) := fun cs =>
  match fuel with
  | 0 => none
  | fuel + 1 => do
    let (part, cs) ← keyPart (skipSpaces cs)
    match skipSpaces cs with
    | '.' :: cs => (key fuel cs).map fun (parts, cs) => (part :: parts, cs)
    | cs => some ([part], cs)

/-! ## Numbers and dates -/

/-- Digits that fulfil `p`, with single underscores between them; `none` if an underscore has no
digit behind it. -/
def underscored (p : Char → Bool) : List Char → Option (List Char × List Char)
  | '_' :: c :: cs =>
    if p c then (underscored p cs).map fun (ds, cs) => (c :: ds, cs) else none
  | '_' :: [] => none
  | c :: cs =>
    if p c then (underscored p cs).map fun (ds, cs) => (c :: ds, cs) else some ([], c :: cs)
  | [] => some ([], [])

/-- Digits, at least one, with single underscores between them. -/
def digits1 (p : Char → Bool) : Reader (List Char)
  | c :: cs => if p c then (underscored p cs).map fun (ds, cs) => (c :: ds, cs) else none
  | [] => none

/-- A sign and the digits of a whole number, which has no leading zeros. -/
def wholeNumber : Reader (Bool × List Char) := fun cs =>
  let (negative, cs) := match cs with
    | '-' :: cs => (true, cs)
    | '+' :: cs => (false, cs)
    | cs => (false, cs)
  match cs with
  | '0' :: cs => some ((negative, ['0']), cs)
  | cs => (digits1 Char.isDigit cs).map fun (ds, cs) => ((negative, ds), cs)

/-- The exponent of a number. -/
def exponent : Reader Int
  | e :: cs =>
    if e == 'e' || e == 'E' then
      let (negative, cs) := match cs with
        | '-' :: cs => (true, cs)
        | '+' :: cs => (false, cs)
        | cs => (false, cs)
      (digits1 Char.isDigit cs).map fun (ds, cs) =>
        let n : Int := Number.Binary64.digitsValue ds
        (if negative then -n else n, cs)
    else none
  | [] => none

/-- A number with a point or an exponent; it must be finite. -/
def float : Reader Number.Binary64 := fun cs => do
  let ((negative, whole), cs) ← wholeNumber cs
  let (part, exponent?, cs) ← match cs with
    | '.' :: cs => do
      let (part, cs) ← digits1 Char.isDigit cs
      match cs with
      | e :: _ =>
        if e == 'e' || e == 'E' then
          (exponent cs).map fun (x, cs) => (part, x, cs)
        else some (part, 0, cs)
      | [] => some (part, 0, cs)
    | cs => (exponent cs).map fun (x, cs) => ([], x, cs)
  let x := Number.Binary64.ofDecimal negative (Number.Binary64.digitsValue (whole ++ part))
    (exponent? - (part.length : Int))
  if x.bits % Number.Binary64.signBit == Number.Binary64.infinityBits then none
  else some (x, cs)

/-- Infinity, or the number that is no number, with or without a sign. -/
def specialFloat : Reader Number.Binary64 := fun cs =>
  let (sign, cs) := match cs with
    | '-' :: cs => (Number.Binary64.signBit, cs)
    | '+' :: cs => (0, cs)
    | cs => (0, cs)
  match cs with
  | 'i' :: 'n' :: 'f' :: cs => some (⟨Number.Binary64.infinityBits + sign⟩, cs)
  | 'n' :: 'a' :: 'n' :: cs => some (⟨Number.Binary64.nanBits + sign⟩, cs)
  | _ => none

/-- The value of digits in a base. -/
def valueIn (base : Nat) (ds : List Char) : Nat :=
  ds.foldl (fun n c => n * base + (Text.hexDigit? c).getD 0) 0

/-- A whole number in base sixteen, eight, two or ten; it must fit into 64 bits with sign. -/
def integer : Reader Int := fun cs => do
  let (n, cs) ← match cs with
    | '0' :: 'x' :: cs =>
      (digits1 (fun c => (Text.hexDigit? c).isSome) cs).map fun (ds, cs) =>
        ((valueIn 16 ds : Int), cs)
    | '0' :: 'o' :: cs =>
      (digits1 (fun c => '0' ≤ c && c ≤ '7') cs).map fun (ds, cs) => ((valueIn 8 ds : Int), cs)
    | '0' :: 'b' :: cs =>
      (digits1 (fun c => c == '0' || c == '1') cs).map fun (ds, cs) => ((valueIn 2 ds : Int), cs)
    | cs =>
      (wholeNumber cs).map fun ((negative, ds), cs) =>
        let n : Int := valueIn 10 ds
        (if negative then -n else n, cs)
  if -9223372036854775808 ≤ n && n ≤ 9223372036854775807 then some (n, cs) else none

/-- A number of exactly `n` digits, from `low` to `high`. -/
def fixed (n low high : Nat) : Reader Nat := fun cs =>
  let ds := cs.take n
  if ds.length = n && ds.all Char.isDigit then
    let v := Number.Binary64.digitsValue ds
    if low ≤ v && v ≤ high then some (v, cs.drop n) else none
  else none

/-- The number of days of a month. -/
def daysIn (year month : Nat) : Nat :=
  if month = 2 then
    if year % 4 = 0 && (year % 100 != 0 || year % 400 = 0) then 29 else 28
  else if month = 4 || month = 6 || month = 9 || month = 11 then 30 else 31

/-- The minutes, seconds and fraction of a time, behind its hour. -/
def timeRest : Reader Unit
  | ':' :: cs => do
    let (_, cs) ← fixed 2 0 59 cs
    match cs with
    | ':' :: cs => do
      let (_, cs) ← fixed 2 0 60 cs
      match cs with
      | '.' :: c :: cs => if c.isDigit then some ((), cs.dropWhile Char.isDigit) else none
      | cs => some ((), cs)
    | _ => none
  | _ => none

/-- The offset of a time, if there is one. -/
def timeOffset (cs : List Char) : Option (List Char) :=
  match cs with
  | 'Z' :: cs | 'z' :: cs => some cs
  | s :: cs =>
    if s == '+' || s == '-' then
      match fixed 2 0 23 cs with
      | some (_, ':' :: cs) => (fixed 2 0 59 cs).map (·.2)
      | _ => none
    else some (s :: cs)
  | [] => some []

/-- What a date or time turned out to be. -/
inductive DateReading where
  /-- There is none here. -/
  | other
  /-- It starts like one but is none. -/
  | wrong
  | date (rest : List Char)

/-- The characters that start here as long as a date does. -/
def startsDate (cs : List Char) : Bool :=
  match cs.drop 4 with
  | '-' :: _ => (cs.take 4).all Char.isDigit
  | _ => false

/-- The characters that start here as a time does. -/
def startsTime (cs : List Char) : Bool :=
  match cs.drop 2 with
  | ':' :: _ => (fixed 2 0 23 cs).isSome
  | _ => false

/-- Reads a date, a time or both. -/
def dateTime (cs : List Char) : DateReading :=
  let ofOption (o : Option (List Char)) : DateReading := o.elim .wrong .date
  if startsDate cs then
    ofOption do
      let (year, cs) ← fixed 4 0 9999 cs
      let (month, cs) ← fixed 2 1 12 (cs.drop 1)
      match cs with
      | '-' :: cs => do
        let (_, cs) ← fixed 2 1 (daysIn year month) cs
        match cs with
        | d :: rest =>
          if (d == 'T' || d == 't' || d == ' ') && startsTime rest then do
            let (_, cs) ← timeRest (rest.drop 2)
            timeOffset cs
          else some cs
        | [] => some []
      | _ => none
  else if startsTime cs then ofOption ((timeRest (cs.drop 2)).map (·.2))
  else .other

end ChatCommand.Settings.Toml
