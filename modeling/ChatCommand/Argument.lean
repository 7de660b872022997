import ChatCommand.Pattern
import ChatCommand.Text.Quoted

/-!
# Arguments

Each positional argument of a command has a name, a `Format` that says how its value is recognised,
and may be optional. `Format.pattern` is the pattern of one value, `Argument.usage` the text that
usage lines show, and `Format.check` refuses formats that could never match sensibly.
-/

namespace ChatCommand

/-- The built-in types of values. -/
inductive ValueType where
  /-- One or more characters that are not blank. -/
  | string
  /-- One or more ASCII digits. -/
  | integer
  /-- Digits, which may be missing, a point, and at least one digit. -/
  | float
  /-- The rest of the line, blanks included. -/
  | text
deriving DecidableEq, Repr

namespace ValueType

/-- All types, in order. -/
def all : List ValueType := [string, integer, float, text]

/-- The name of a type. -/
def name : ValueType → String
  | string => "string"
  | integer => "integer"
  | float => "float"
  | text => "text"

/-- The pattern of the values of a type. -/
def source : ValueType → String
  | string => "\\S+"
  | integer => "[0-9]+"
  | float => "[0-9]*\\.[0-9]+"
  | text => ".+"

/-- The type of that name. -/
def ofName? (s : String) : Option ValueType :=
  all.find? (·.name == s)

end ValueType

/-- How the value of an argument is recognised. -/
inductive Format where
  /-- By a built-in type. -/
  | type (type : ValueType)
  /-- By a fragment in pattern syntax. -/
  | pattern (source : String)
  /-- As one of some fixed texts. -/
  | choices (texts : List String)
  /-- As a fixed text. -/
  | literal (text : String)
deriving DecidableEq, Repr

/-- Why a format is refused. -/
inductive FormatFault where
  | emptyPattern
  | badPattern (cause : PatternError)
  | noChoices
  | emptyChoice
  | emptyLiteral
deriving DecidableEq, Repr

/-- The fault in words. -/
def FormatFault.message : FormatFault → String
  | emptyPattern => "custom pattern is empty"
  | badPattern cause => "custom pattern does not compile: " ++ cause.message
  | noChoices => "choice list is empty"
  | emptyChoice => "choice list contains an empty string"
  | emptyLiteral => "literal is empty"

namespace Format

/-- The pattern of one value. -/
def toPattern : Format → Pattern
  | type t => .raw t.source
  | pattern source => .raw source
  | choices texts => .choice (texts.map .literal)
  | literal text => .literal text

/-- The value as usage lines show it; `name` is the name of the argument. -/
def usage (name : String) : Format → String
  | type _ => Text.upper name
  | pattern source => source
  | choices texts => "[" ++ "|".intercalate texts ++ "]"
  | literal text => text

/-- Refuses a format that could never match sensibly, or that takes more room than `limit`. -/
def check (limit : Nat) : Format → Except FormatFault Unit
  | type _ => .ok ()
  | pattern source =>
    if source.isEmpty then .error .emptyPattern
    else
      match Regex.parse source limit with
      | .ok _ => .ok ()
      | .error cause => .error (.badPattern cause)
  | choices texts =>
    if texts.isEmpty then .error .noChoices
    else if texts.any (·.isEmpty) then .error .emptyChoice
    else .ok ()
  | literal text => if text.isEmpty then .error .emptyLiteral else .ok ()

/-- The format with its constructor and parts spelled out. -/
def describe : Format → String
  | type t =>
    let name := match t with
      | .string => "String"
      | .integer => "Integer"
      | .float => "Float"
      | .text => "Text"
    "Type(" ++ name ++ ")"
  | pattern source => "Pattern(" ++ Text.quoted source ++ ")"
  | choices texts => "Choices(" ++ Text.quotedList texts ++ ")"
  | literal text => "Literal(" ++ Text.quoted text ++ ")"

end Format

/-- One positional argument of a command. -/
structure Argument where
  name : String
  format : Format
  /-- The argument may be left out. -/
  optional : Bool := false
deriving DecidableEq, Repr

namespace Argument

/-- The argument as usage lines show it, in parentheses if it is optional. -/
def usage (a : Argument) : String :=
  let shown := a.format.usage a.name
  if a.optional then "(" ++ shown ++ ")" else shown

/-- The argument with its fields spelled out. -/
def describe (a : Argument) : String :=
  "ArgumentSpec \x7b name: " ++ Text.quoted a.name ++ ", format: " ++ a.format.describe ++
    ", optional: " ++ (if a.optional then "true" else "false") ++ " \x7d"

end Argument

end ChatCommand
