import ChatCommand.Number.Integer
import ChatCommand.Service.Draft

/-!
# Commands of the bot

A small set of commands that shows every kind of argument: free text, types, choices, a literal word
and a pattern.
-/

namespace ChatCommand.Bot

/-- The greatest number of dice, of sides, and of points. -/
def maxPoints : Nat := 18446744073709551615

/-- The greatest level that can be granted. -/
def maxLevel : Nat := 4294967295

/-- A number of a command, at most `limit`. -/
def readNumber (limit : Nat) (s : String) : Except String Nat :=
  (Number.readNatural limit s.toList).mapError (·.message)

/-! ## Handlers -/

/-- Repeats the text. -/
def echo : Handler :=
  .line fun i => (i.values.value? "text").getD ""

/-- Answers. -/
def ping : Handler :=
  .line fun _ => "Pong!"

/-- The number of dice and of their sides, which are written with a letter between them. -/
def readDice (dice : String) : Except String (Nat × Nat) := do
  let cs := dice.toList
  match cs.dropWhile (· != 'd') with
  | [] => throw ("malformed dice " ++ Text.quoted dice)
  | _ :: sides =>
    let count ← readNumber maxPoints (String.ofList (cs.takeWhile (· != 'd')))
    let sides ← readNumber maxPoints (String.ofList sides)
    pure (count, sides)

/-- Reports the range of the sum of dice. -/
def roll : Handler :=
  .line? fun i => do
    let dice := (i.values.value? "dice").getD ""
    let (count, sides) ← readDice dice
    if count = 0 ∨ sides = 0 then
      pure (i.sender ++ " can't roll " ++ dice)
    else
      pure (i.sender ++ " rolls " ++ dice ++ ": somewhere between " ++ toString count ++ " and " ++
        toString (min (count * sides) maxPoints))

/-- Paints the wall. -/
def paint : Handler :=
  .line fun i => "The wall is now " ++ (i.values.get? 0).getD ""

/-- Notes a reminder, which only the sender gets to see. -/
def remind : Handler :=
  .replies fun i => [i.query ("Reminder noted: " ++ (i.values.value? "message").getD "")]

/-- The name and the level of a grant; the level is 1 unless it is given. -/
def readGrant (i : Invocation) : Except String (String × Nat) := do
  let level ← i.values.read? "level" (readNumber maxLevel)
  pure ((i.values.value? "name").getD "", level.getD 1)

/-- Grants a level. -/
def grant : Handler where
  answer i := do
    let (name, level) ← readGrant i
    pure [i.reply (name ++ " now has level " ++ toString level)]
  events i :=
    match readGrant i with
    | .ok (name, level) =>
      [{ level := .info
         target := "command_bot"
         message := "Access granted"
         fields :=
          [("operator", .shown i.sender), ("name", .shown name), ("level", .number level)] }]
    | .error _ => []

/-! ## Registration -/

/-- All commands, each with its group and its handler. -/
def commands : List (String × Definition × Handler) :=
  [("misc",
      { name := "echo"
        arguments := [{ name := "text", format := .type .text }]
        summary := some "Repeats the text" },
      echo),
    ("misc", { name := "ping", summary := some "Pong!" }, ping),
    ("misc",
      { name := "roll"
        arguments := [{ name := "dice", format := .pattern "[0-9]+d[0-9]+" }]
        summary := some "Rolls dice written as 2d6" },
      roll),
    ("misc",
      { name := "remind"
        arguments :=
          [{ name := "me", format := .literal "me" }, { name := "message", format := .type .text }]
        summary := some "Sends you a reminder" },
      remind),
    ("fun",
      { name := "paint"
        arguments := [{ name := "color", format := .choices ["red", "green", "blue"] }]
        summary := some "Paints the wall" },
      paint),
    ("admin",
      { name := "grant"
        arguments :=
          [{ name := "name", format := .type .string },
            { name := "level", format := .type .integer, optional := true }]
        aliases := ["g"]
        summary := some "Grants access"
        description := some "Grants a certain level of access to the user"
        operatorOnly := true },
      grant)]

/-- The draft with all commands. -/
def draft : Draft :=
  commands.foldl (fun d (group, definition, handler) => (d.define group definition handler).1) {}

end ChatCommand.Bot
