import ChatCommand.Settings.Toml.Lexeme
import ChatCommand.Settings.Toml.Table

/-!
# TOML documents

`Toml.parse` reads a document into the data that it holds. Of a text that is no document it says no
more than that.
-/

namespace ChatCommand.Settings.Toml

/-- How deep arrays and tables within a value may be nested. -/
def nestLimit : Nat := 79

/-- What a date is read into: a table, since no setting takes a date. -/
def dateData : Data :=
  .table [("$__toml_private_datetime", .scalar (.text ""))]

/-- A number, a date or a word for a number. -/
def numberOrDate : Reader Data := fun cs =>
  match dateTime cs with
  | .date rest => some (dateData, rest)
  | .wrong => none
  | .other =>
    match float cs with
    | some (x, cs) => some (.scalar (.float x), cs)
    | none =>
      match specialFloat cs with
      | some (x, cs) => some (.scalar (.float x), cs)
      | none => (integer cs).map fun (n, cs) => (.scalar (.integer n), cs)

mutual

/-- A value, with at most `depth` levels in it. -/
def value (fuel depth : Nat) : Reader Data := fun cs =>
  match fuel with
  | 0 => none
  | fuel + 1 =>
    match cs with
    | '"' :: _ | '\'' :: _ => (quotedText cs).map fun (s, cs) => (.scalar (.text s), cs)
    | '[' :: cs =>
      if depth = 0 then none
      else (arrayItems fuel (depth - 1) cs).map fun (ds, cs) => (.list ds, cs)
    | '\x7b' :: cs =>
      if depth = 0 then none
      else
        match skipSpaces cs with
        | '\x7d' :: cs => some (.table [], cs)
        | cs => (inlineEntries fuel (depth - 1) .empty cs).map fun (t, cs) => (t.toData, cs)
    | 't' :: 'r' :: 'u' :: 'e' :: cs => some (.scalar (.bool true), cs)
    | 'f' :: 'a' :: 'l' :: 's' :: 'e' :: cs => some (.scalar (.bool false), cs)
    | cs => numberOrDate cs

/-- The items of an array up to its end. -/
def arrayItems (fuel depth : Nat) : Reader (List Data) := fun cs =>
  match fuel with
  | 0 => none
  | fuel + 1 =>
    match skipLines (cs.length + 1) cs with
    | ']' :: cs => some ([], cs)
    | cs => do
      let (d, cs) ← value fuel depth cs
      match skipLines (cs.length + 1) cs with
      | ',' :: cs => (arrayItems fuel depth cs).map fun (ds, cs) => (d :: ds, cs)
      | ']' :: cs => some ([d], cs)
      | _ => none

/-- The entries of a table in braces up to its end. -/
def inlineEntries (fuel depth : Nat) (t : Table) : Reader Table := fun cs =>
  match fuel with
  | 0 => none
  | fuel + 1 => do
    let (path, cs) ← key (cs.length + 1) cs
    match cs with
    | '=' :: cs => do
      let (d, cs) ← value fuel depth (skipSpaces cs)
      let t ← t.addValue path.dropLast (path.getLastD "") d
      match skipSpaces cs with
      | ',' :: cs => inlineEntries fuel depth t cs
      | '\x7d' :: cs => some (t, cs)
      | _ => none
    | _ => none

end

/-- The characters behind the end of a line, which may hold a comment. -/
def endOfLine? (cs : List Char) : Option (List Char) :=
  match skipComment (skipSpaces cs) with
  | [] => some []
  | cs => lineEnd? cs

/-- Reads the lines of a document. -/
def lines (fuel : Nat) (b : Build) (cs : List Char) : Option Build :=
  match fuel with
  | 0 => none
  | fuel + 1 =>
    match skipLines (cs.length + 1) cs with
    | [] => some b
    | '[' :: '[' :: cs => do
      let (path, cs) ← key (cs.length + 1) cs
      match cs with
      | ']' :: ']' :: cs => do
        let cs ← endOfLine? cs
        let b ← b.startArrayTable path
        lines fuel b cs
      | _ => none
    | '[' :: cs => do
      let (path, cs) ← key (cs.length + 1) cs
      match cs with
      | ']' :: cs => do
        let cs ← endOfLine? cs
        let b ← b.startTable path
        lines fuel b cs
      | _ => none
    | cs => do
      let (path, cs) ← key (cs.length + 1) cs
      match cs with
      | '=' :: cs => do
        let (d, cs) ← value (2 * cs.length + 2) nestLimit (skipSpaces cs)
        let cs ← endOfLine? cs
        let b ← b.addValue path.dropLast (path.getLastD "") d
        lines fuel b cs
      | _ => none

/-- The data that a document holds. A byte order mark at its start is passed over. -/
def parse (text : String) : Option Data :=
  let cs := match text.toList with
    | '\ufeff' :: cs => cs
    | cs => cs
  (lines (cs.length + 2) {} cs).bind fun b => b.finish.map (·.toData)

end ChatCommand.Settings.Toml
