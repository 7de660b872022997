import ChatCommand.Text.Quoted

/-!
# Settings errors

Why no settings could be produced: a file that is missing, sources that do not fit the schema, or
values that cannot drive the service.
-/

namespace ChatCommand.Settings

/-- Where a value was written. -/
inductive Origin where
  /-- By the program itself. -/
  | program
  /-- In a file; its path and the name of its format. -/
  | file (path format : String)
  /-- In variables of the environment. -/
  | environment
deriving DecidableEq, Repr

/-- What is wrong with a value. -/
inductive Misfit where
  /-- The value is of another type. -/
  | type (found expected : String)
  /-- The value is none of the alternatives. -/
  | variant (found : String) (expected : List String)
deriving DecidableEq, Repr

/-- A list of alternatives in words. -/
def alternatives (names : List String) : String :=
  match names.map fun n => "`" ++ n ++ "`" with
  | [] => ""
  | [a] => a
  | [a, b] => a ++ " or " ++ b
  | as => "one of " ++ ", ".intercalate as

/-- The misfit in words. -/
def Misfit.message (m : Misfit) : String :=
  match m with
  | type found expected => "invalid type: found " ++ found ++ ", expected " ++ expected
  | variant found expected =>
    "unknown variant: found `" ++ found ++ "`, expected `" ++ alternatives expected ++ "`"

/-- The key as the source itself writes it. -/
def Origin.key (o : Origin) (path : List String) : String :=
  match o with
  | environment => ".".intercalate (path.map fun k => String.ofList (k.toList.map Char.toUpper))
  | _ => ".".intercalate ("default" :: path)

/-- The source in words. -/
def Origin.name : Origin → Option String
  | program => none
  | file path format => some (path ++ " " ++ format ++ " file")
  | environment => some "`ALLOY_` environment variable(s)"

/-- A cause with the place where it arose. -/
def located (cause : String) (path : List String) (origin : Origin) : String :=
  let cause := if path.isEmpty then cause
    else cause ++ " for key " ++ Text.quoted (origin.key path)
  match origin.name with
  | some name => cause ++ " in " ++ name
  | none => cause

/-- Why the sources could not be read or do not fit the schema. -/
inductive Unreadable where
  /-- The format that the ending of a file name stands for is not supported. -/
  | format (ending : String)
  /-- Documents that are not well-formed, the latest first, with what is wrong in them. -/
  | documents (faults : List (Origin × String))
  /-- A value that does not fit the schema. -/
  | misfit (m : Misfit) (path : List String) (origin : Origin)
  /-- A reason that the caller describes. -/
  | stated (reason : String)
deriving DecidableEq, Repr

/-- The reason in words. -/
def Unreadable.message : Unreadable → String
  | format ending => "Unsupported or disabled configuration file format: ." ++ ending
  | documents faults =>
    "Failed to extract configuration: " ++
      "\n".intercalate (faults.map fun (origin, cause) => located cause [] origin)
  | misfit m path origin =>
    "Failed to extract configuration: " ++ located m.message path origin
  | stated reason => reason

/-- Why settings that were read cannot drive the service. -/
inductive Unusable where
  | emptySigil
  | blankInSigil (sigil : String)
  | blankOperator
  | noLogFile
  /-- A reason that the caller describes. -/
  | stated (reason : String)
deriving DecidableEq, Repr

/-- The reason in words. -/
def Unusable.message : Unusable → String
  | emptySigil => "Command prefix must not be empty"
  | blankInSigil sigil => "Command prefix must not contain whitespace: " ++ Text.quoted sigil
  | blankOperator => "Operator names must not be blank"
  | noLogFile => "File log output requires logging.file_path"
  | stated reason => reason

/-- Why no settings could be produced. -/
inductive Error where
  /-- The file that was asked for does not exist. -/
  | missingFile (path : String)
  | unreadable (cause : Unreadable)
  | unusable (cause : Unusable)
deriving DecidableEq, Repr

/-- The error in words. -/
def Error.message : Error → String
  | missingFile path => "Command runtime config file " ++ Text.quoted path ++ " does not exist"
  | unreadable cause => "Unreadable command runtime settings: " ++ cause.message
  | unusable cause => "Rejected command runtime settings: " ++ cause.message

end ChatCommand.Settings
