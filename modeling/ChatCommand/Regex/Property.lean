import ChatCommand.Regex.CharSet
import ChatCommand.Text.Age
import ChatCommand.Text.Binary
import ChatCommand.Text.Script

/-!
# Character properties by name

What a pattern writes between the braces of a property class: the name of a property, or the name
of a property and one of its values. Names are compared in a loose form (`looseName`).
-/

namespace ChatCommand.Regex

/-- The name without blanks, dashes, underscores and characters beyond ASCII, in small letters. A
leading "is" does not count, except that "isc" is no name of the group "c". -/
def looseName (name : List Char) : String :=
  let bare (cs : List Char) := (cs.filter fun c =>
    c.toNat < 128 && c != ' ' && c != '_' && c != '-').map (·.toLower)
  match name with
  | i :: s :: rest =>
    if i.toLower == 'i' && s.toLower == 's' then
      if bare rest == ['c'] then "isc" else String.ofList (bare rest)
    else String.ofList (bare name)
  | _ => String.ofList (bare name)

/-- The general category of that name. -/
def category? : String → Option CharSet
  | "any" => some .any
  | "assigned" => some (.compl (.table Text.unassigned))
  | "ascii" => some .ascii
  | name => (Text.NamedTable.find? Text.categories name).map .table

/-- The script of that name. -/
def script? (name : String) : Option Text.Script :=
  Text.scripts.find? (·.names.contains name)

/-- The property of that name, where it needs no value. -/
def property? (name : String) : Option CharSet :=
  (Text.NamedTable.find? Text.binaryProperties name).map .table <|> category? name <|>
    (script? name).map fun s => .table s.table

/-- The characters for which the property called `name` has that value. -/
def valueOf? (name value : String) : Option CharSet :=
  match name with
  | "gc" | "generalcategory" => category? value
  | "sc" | "script" => (script? value).map fun s => .table s.table
  | "scx" | "scriptextensions" => (script? value).map fun s => .table (s.extended?.getD s.table)
  | "age" => (Text.ageTable? value).map .table
  | "gcb" | "graphemeclusterbreak" => (Text.NamedTable.find? Text.graphemeBreaks value).map .table
  | "wb" | "wordbreak" => (Text.NamedTable.find? Text.wordBreaks value).map .table
  | "sb" | "sentencebreak" => (Text.NamedTable.find? Text.sentenceBreaks value).map .table
  | _ => none

/-- The text as a name, whether the sign behind it is "!=", and a value. Such a sign counts before
any other, and a colon before an equals sign. -/
def splitProperty (text : List Char) : Option (List Char × Bool × List Char) :=
  (unequal? [] text <|> at? ':' <|> at? '=')
where
  /-- The parts around the first "!=", behind the characters of `before`, last one first. -/
  unequal? (before : List Char) : List Char → Option (List Char × Bool × List Char)
    | '!' :: '=' :: value => some (before.reverse, true, value)
    | c :: rest => unequal? (c :: before) rest
    | [] => none
  /-- The parts around the first `sign`. -/
  at? (sign : Char) : Option (List Char × Bool × List Char) :=
    if text.contains sign then
      some (text.takeWhile (· != sign), false, (text.dropWhile (· != sign)).drop 1)
    else none

/-- The set that the text of a property class writes, before it is folded, and whether its
complement is meant. -/
def propertyClass? (text : List Char) : Option (CharSet × Bool) :=
  match splitProperty text with
  | some (name, negated, value) =>
    (valueOf? (looseName name) (looseName value)).map (·, negated)
  | none => (property? (looseName text)).map (·, false)

end ChatCommand.Regex
