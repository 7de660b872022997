/-!
# Options of the bot

What the command line says: a settings file, the sender of the messages, and their channel. An
option has a long name, some a letter too; its value follows it as the next argument, behind a sign
of equality, or directly behind the letter.
-/

namespace ChatCommand.Bot

/-- What the command line says. -/
structure Options where
  /-- The settings file. -/
  config : Option String := none
  /-- Who sends the messages. -/
  sender : Option String := none
  /-- Where the messages are posted; they are private without it. -/
  channel : Option String := none
deriving DecidableEq, Repr

/-- Why a command line does not start the bot. -/
inductive Refusal where
  /-- It asks for help. -/
  | help
  /-- It is not well-formed. -/
  | misuse
deriving DecidableEq, Repr

/-- The options. -/
inductive Key where
  | config
  | sender
  | channel
deriving DecidableEq, Repr

/-- The option of that long name. -/
def Key.ofName? : String → Option Key
  | "config" => some config
  | "sender" => some sender
  | "channel" => some channel
  | _ => none

/-- The option of that letter. -/
def Key.ofLetter? : Char → Option Key
  | 'c' => some config
  | 's' => some sender
  | _ => none

namespace Options

/-- Gives an option its value. No option is given twice, and the path of a file is not empty. -/
def set (o : Options) (key : Key) (value : String) : Except Refusal Options :=
  match key with
  | .config =>
    if o.config.isSome || value.isEmpty then .error .misuse else .ok { o with config := some value }
  | .sender => if o.sender.isSome then .error .misuse else .ok { o with sender := some value }
  | .channel => if o.channel.isSome then .error .misuse else .ok { o with channel := some value }

/-- An argument as it is understood. -/
inductive Argument where
  /-- An option whose value is the next argument. -/
  | key (k : Key)
  /-- An option with its value. -/
  | pair (k : Key) (value : String)
  | help
  /-- The mark behind which no options come. -/
  | rest
  /-- Something that is no option. -/
  | other
deriving DecidableEq, Repr

/-- Understands an argument. -/
def Argument.ofChars : List Char → Argument
  | ['-', '-'] => rest
  | '-' :: '-' :: cs =>
    let name := String.ofList (cs.takeWhile (· != '='))
    match Key.ofName? name, cs.dropWhile (· != '=') with
    | some k, [] => key k
    | some k, _ :: value => pair k (String.ofList value)
    | none, [] => if name == "help" then help else other
    | none, _ => other
  | '-' :: c :: cs =>
    match Key.ofLetter? c, cs with
    | some k, [] => key k
    | some k, '=' :: value => pair k (String.ofList value)
    | some k, value => pair k (String.ofList value)
    | none, _ => if c == 'h' then help else other
  | _ => other

/-- An argument that can be the value of the option before it. -/
def isValue (s : String) : Bool :=
  s == "-" || s.toList.head? != some '-'

/-- Reads arguments from left to right; the first one that is out of order decides. -/
def read (o : Options) : List String → Except Refusal Options
  | [] => .ok o
  | arg :: args =>
    match Argument.ofChars arg.toList with
    | .pair k value =>
      match o.set k value with
      | .ok o => read o args
      | .error r => .error r
    | .key k =>
      match args with
      | value :: args =>
        if isValue value then
          match o.set k value with
          | .ok o => read o args
          | .error r => .error r
        else .error .misuse
      | [] => .error .misuse
    | .help => .error .help
    | .rest => if args.isEmpty then .ok o else .error .misuse
    | .other => .error .misuse

/-- Who sends the messages. -/
def senderName (o : Options) : String :=
  o.sender.getD "console"

end Options

/-- The text that explains the command line. -/
def helpLines : List String :=
  ["Type chat messages, get command replies",
    "",
    "Usage: command-bot [OPTIONS]",
    "",
    "Options:",
    "  -c, --config <CONFIG>    Configuration file to load instead of ./alloy.toml",
    "  -s, --sender <SENDER>    Nickname the messages are sent as [default: console]",
    "      --channel <CHANNEL>  Channel the messages are posted in; private messages when omitted",
    "  -h, --help               Print help"]

end ChatCommand.Bot
