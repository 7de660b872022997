import ChatCommand.Settings.Tree
import ChatCommand.Text.Blank
import ChatCommand.Text.Digit

/-!
# Settings in the environment

Variables whose names start with `ALLOY_`, in any case, are settings: two underscores stand for a
step into a table. Their values have a small notation of their own, with lists in brackets and
tables in braces; a value that is not written in it is a plain text.
-/

namespace ChatCommand.Settings

/-- Variables of the environment with their names, in the order of the environment. -/
abbrev Environment := List (String × String)

namespace Environment

/-- A character that is passed over around values. -/
def isSpace (c : Char) : Bool :=
  c == ' ' || c == '\t' || c == '\n' || c == '\r' || c == '\x0c'

/-- A character that may not stand in a plain value. -/
def isSeparator (c : Char) : Bool :=
  c == ',' || c == '\x7b' || c == '\x7d' || c == '[' || c == ']'

/-- A character of a key without quotes. -/
def isKeyChar (c : Char) : Bool :=
  c.isAlphanum || c == '_' || c == '-'

/-- The characters behind blanks. -/
def skipSpaces (cs : List Char) : List Char :=
  cs.dropWhile isSpace

/-- The character that is written with `n` hexadecimal digits, and what follows. -/
def hexChar? (n : Nat) (cs : List Char) : Option (Char × List Char) :=
  if cs.length < n then none
  else
    match Text.hexNumber? (cs.take n) with
    | some v => if v.isValidChar then some (Char.ofNat v, cs.drop n) else none
    | none => none

/-- The character that an escape stands for, and what follows. -/
def escaped? : List Char → Option (Char × List Char)
  | 'b' :: cs => some ('\x08', cs)
  | 't' :: cs => some ('\t', cs)
  | 'n' :: cs => some ('\n', cs)
  | 'f' :: cs => some ('\x0c', cs)
  | 'r' :: cs => some ('\r', cs)
  | '"' :: cs => some ('"', cs)
  | '\\' :: cs => some ('\\', cs)
  | 'u' :: cs => hexChar? 4 cs
  | 'U' :: cs => hexChar? 8 cs
  | _ => none

/-- The text up to the closing quote, and what follows; at most `fuel` characters are read. -/
def readQuoted (fuel : Nat) (text cs : List Char) : Option (String × List Char) :=
  match fuel, cs with
  | 0, _ | _, [] => none
  | _ + 1, '"' :: cs => some (String.ofList text.reverse, cs)
  | fuel + 1, '\\' :: cs =>
    match escaped? cs with
    | some (c, cs) => readQuoted fuel (c :: text) cs
    | none => none
  | fuel + 1, c :: cs =>
    if c == '\t' || (' ' ≤ c && c != '\x7f') then readQuoted fuel (c :: text) cs else none

/-- The value that a plain text stands for. -/
def plainValue (cs : List Char) : Scalar :=
  let cs := Text.trimBlanks cs
  let float := if cs.contains '.' then Number.Binary64.read? cs else none
  match float, Number.readNatural 18446744073709551615 cs,
    Number.readInteger 9223372036854775807 cs with
  | some x, _, _ => .float x
  | none, .ok n, _ => .natural n
  | none, _, .ok i => .integer i
  | none, _, _ => .text (String.ofList cs)

/-- A key and what follows. -/
def readKey (cs : List Char) : Option (String × List Char) :=
  match cs with
  | '"' :: cs => readQuoted (cs.length + 1) [] cs
  | cs =>
    if (cs.takeWhile isKeyChar).isEmpty then none
    else some (String.ofList (cs.takeWhile isKeyChar), cs.dropWhile isKeyChar)

mutual

/-- A value and what follows; at most `fuel` steps are taken. -/
def readValue (fuel : Nat) (cs : List Char) : Option (Data × List Char) :=
  match fuel with
  | 0 => none
  | fuel + 1 => do
    let (value, rest) ← match skipSpaces cs with
      | 't' :: 'r' :: 'u' :: 'e' :: cs => some (.scalar (.bool true), cs)
      | 'f' :: 'a' :: 'l' :: 's' :: 'e' :: cs => some (.scalar (.bool false), cs)
      | '\x7b' :: cs => (readTable fuel cs).map fun (es, cs) => (.table es, cs)
      | '[' :: cs => (readList fuel cs).map fun (ds, cs) => (.list ds, cs)
      | '"' :: cs =>
        (readQuoted (cs.length + 1) [] cs).map fun (s, cs) => (.scalar (.text s), cs)
      | '\'' :: c :: '\'' :: cs => some (.scalar (.char c), cs)
      | '\'' :: _ => none
      | cs =>
        some (.scalar (plainValue (cs.takeWhile (!isSeparator ·))), cs.dropWhile (!isSeparator ·))
    pure (value, skipSpaces rest)

/-- The items of a list up to its end, and what follows. -/
def readList (fuel : Nat) (cs : List Char) : Option (List Data × List Char) :=
  match fuel, cs with
  | 0, _ => none
  | _ + 1, ']' :: cs => some ([], cs)
  | fuel + 1, cs =>
    match readValue fuel cs with
    | some (d, ',' :: cs) => (readList fuel cs).map fun (ds, cs) => (d :: ds, cs)
    | some (d, ']' :: cs) => some ([d], cs)
    | _ => none

/-- The entries of a table up to its end, and what follows. -/
def readTable (fuel : Nat) (cs : List Char) : Option (List (String × Data) × List Char) :=
  match fuel, cs with
  | 0, _ => none
  | _ + 1, '\x7d' :: cs => some ([], cs)
  | fuel + 1, cs =>
    match readKey (skipSpaces cs) with
    | none => none
    | some (k, cs) =>
      match skipSpaces cs with
      | '=' :: cs =>
        match readValue fuel cs with
        | some (d, ',' :: cs) => (readTable fuel cs).map fun (es, cs) => ((k, d) :: es, cs)
        | some (d, '\x7d' :: cs) => some ([(k, d)], cs)
        | _ => none
      | _ => none

end

/-- The value of a variable. -/
def valueOf (s : String) : Data :=
  match readValue (2 * s.length + 2) s.toList with
  | some (d, []) => d
  | _ => .scalar (.text s)

/-- The lower case of the ASCII letters. -/
def lowered (s : String) : List Char :=
  s.toList.map Char.toLower

/-- The steps of a path, which stand between points; two underscores count as a point. -/
def steps (cs : List Char) : List String :=
  ((String.ofList cs).replace "__" ".").splitOn "."

/-- The path of the setting that a variable of that name holds. -/
def path? (name : String) : Option (List String) :=
  match lowered name with
  | 'a' :: 'l' :: 'l' :: 'o' :: 'y' :: '_' :: cs =>
    let path := steps cs
    if path.any (·.isEmpty) then none else some path
  | _ => none

/-- A value at the end of a path. -/
def atPath (n : Node) : List String → Node
  | [] => n
  | k :: ks => .table .environment [(k, atPath n ks)]

/-- All settings in the environment. Of two variables for one setting, such as two whose names
differ in case alone, the later counts. -/
def settings (e : Environment) : Node :=
  (e.filterMap fun (name, value) =>
    (path? name).map (atPath ((valueOf value).toNode .environment))).foldl Node.merge
    (.table .environment [])

end Environment

end ChatCommand.Settings
