/-!
# Decimal integers

Reading a bounded integer in decimal. The first character that is wrong decides about the fault, so
a number that is already too large is refused as such whatever follows.
-/

namespace ChatCommand.Number

/-- Why a text is no integer of the wanted type. -/
inductive IntegerFault where
  | empty
  | invalidDigit
  | tooLarge
  | tooSmall
deriving DecidableEq, Repr

/-- The fault in words. -/
def IntegerFault.message : IntegerFault → String
  | empty => "cannot parse integer from empty string"
  | invalidDigit => "invalid digit found in string"
  | tooLarge => "number too large to fit in target type"
  | tooSmall => "number too small to fit in target type"

/-- The value of a decimal digit. -/
def digit? (c : Char) : Option Nat :=
  if c.isDigit then some (c.toNat - '0'.toNat) else none

/-- Appends digits to `n`; the value may not exceed `limit`, else `fault` is the answer. -/
def appendDigits (limit : Nat) (fault : IntegerFault) : Nat → List Char → Except IntegerFault Nat
  | n, [] => .ok n
  | n, c :: cs =>
    match digit? c with
    | none => .error .invalidDigit
    | some d =>
      if n * 10 + d ≤ limit then appendDigits limit fault (n * 10 + d) cs else .error fault

/-- Reads digits, at least one. -/
def readDigits (limit : Nat) (fault : IntegerFault) : List Char → Except IntegerFault Nat
  | [] => .error .invalidDigit
  | cs => appendDigits limit fault 0 cs

/-- Reads a number from zero to `limit`; a plus sign may precede it. -/
def readNatural (limit : Nat) (cs : List Char) : Except IntegerFault Nat :=
  match cs with
  | [] => .error .empty
  | '+' :: cs => readDigits limit .tooLarge cs
  | cs => readDigits limit .tooLarge cs

/-- Reads a number from `-limit - 1` to `limit`; a sign may precede it. -/
def readInteger (limit : Nat) (cs : List Char) : Except IntegerFault Int :=
  match cs with
  | '-' :: cs => (readDigits (limit + 1) .tooSmall cs).map fun n => -(n : Int)
  | cs => (readNatural limit cs).map fun n => (n : Int)

end ChatCommand.Number
