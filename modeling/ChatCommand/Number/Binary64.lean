import ChatCommand.Number.Integer

/-!
# Double-precision numbers

A double is kept as its 64 bits. `ofDecimal` rounds a decimal number to the nearest double,
`shortest` finds the fewest digits that read back, and `read?` reads the usual notation.
-/

namespace ChatCommand.Number

/-- A double-precision number, by its bits. -/
structure Binary64 where
  bits : Nat
deriving DecidableEq, Repr

namespace Binary64

/-- The bits of infinity. -/
def infinityBits : Nat := 0x7ff0000000000000

/-- The bit of the sign. -/
def signBit : Nat := 0x8000000000000000

/-- The bits of the number that is no number. -/
def nanBits : Nat := 0x7ff8000000000000

/-- The weight of the bit that normal numbers have in front of their fraction. -/
def hiddenBit : Nat := 0x10000000000000

/-- The quotient rounded to the nearest integer, a half to the even one. -/
def roundDiv (num den : Nat) : Nat :=
  let q := num / den
  let r := 2 * (num % den)
  if den < r || (r == den && q % 2 == 1) then q + 1 else q

/-- The bits of the double nearest to `num / den`, which is positive. -/
def quotientBits (num den : Nat) : Nat :=
  let guess : Int := (num.log2 : Int) - (den.log2 : Int)
  let below :=
    if 0 ≤ guess then num < den * Nat.pow 2 guess.toNat
    else num * Nat.pow 2 (-guess).toNat < den
  let top := if below then guess - 1 else guess
  let unit := max (top - 52) (-1074)
  let steps := if 0 ≤ unit then roundDiv num (den * Nat.pow 2 unit.toNat)
    else roundDiv (num * Nat.pow 2 (-unit).toNat) den
  min infinityBits ((unit + 1074).toNat * hiddenBit + steps)

/-- The number of decimal digits of `n`. -/
def digitCount (n : Nat) : Nat :=
  (Nat.toDigits 10 n).length

/-- The bits of the double nearest to `n` times ten to the `exponent`. -/
def decimalBits (n : Nat) (exponent : Int) : Nat :=
  if n = 0 then 0
  else
    let size := (digitCount n : Int) + exponent
    if 400 < size then infinityBits
    else if size < -400 then 0
    else if 0 ≤ exponent then quotientBits (n * Nat.pow 10 exponent.toNat) 1
    else quotientBits n (Nat.pow 10 (-exponent).toNat)

/-- The double nearest to a decimal number. -/
def ofDecimal (negative : Bool) (n : Nat) (exponent : Int) : Binary64 :=
  ⟨decimalBits n exponent + if negative then signBit else 0⟩

/-- The number of hexadecimal digits that the bits are written with is fixed. -/
def hex (x : Binary64) : String :=
  let digits := Nat.toDigits 16 x.bits
  String.ofList (List.replicate (16 - digits.length) '0' ++ digits)

/-! ## Reading -/

/-- The value of decimal digits. -/
def digitsValue (cs : List Char) : Nat :=
  cs.foldl (fun n c => n * 10 + (digit? c).getD 0) 0

/-- Reads an exponent, behind its letter. -/
def readExponent? (cs : List Char) : Option Int :=
  let (negative, digits) := match cs with
    | '-' :: ds => (true, ds)
    | '+' :: ds => (false, ds)
    | ds => (false, ds)
  if digits.isEmpty || !digits.all Char.isDigit then none
  else
    let n : Int := digitsValue digits
    some (if negative then -n else n)

/-- Reads a number without its sign: digits with at most one point, and an exponent. -/
def readMagnitude? (cs : List Char) : Option (Nat × Int) :=
  let whole := cs.takeWhile Char.isDigit
  let rest := cs.dropWhile Char.isDigit
  let (part, rest) := match rest with
    | '.' :: ds => (ds.takeWhile Char.isDigit, ds.dropWhile Char.isDigit)
    | ds => ([], ds)
  if whole.isEmpty && part.isEmpty then none
  else
    let n := digitsValue (whole ++ part)
    match rest with
    | [] => some (n, -(part.length : Int))
    | e :: ds =>
      if e == 'e' || e == 'E' then
        (readExponent? ds).map fun x => (n, x - (part.length : Int))
      else none

/-- Reads a number; infinity and the number that is no number are written in letters. -/
def read? (cs : List Char) : Option Binary64 :=
  let (negative, body) := match cs with
    | '-' :: ds => (true, ds)
    | '+' :: ds => (false, ds)
    | ds => (false, ds)
  let sign := if negative then signBit else 0
  match String.ofList (body.map Char.toLower) with
  | "inf" | "infinity" => some ⟨infinityBits + sign⟩
  | "nan" => some ⟨nanBits + sign⟩
  | _ => (readMagnitude? body).map fun (n, exponent) => ofDecimal negative n exponent

/-- Why a text is no number. -/
inductive Fault where
  | empty
  | invalid
deriving DecidableEq, Repr

/-- The fault in words. -/
def Fault.message : Fault → String
  | empty => "cannot parse float from empty string"
  | invalid => "invalid float literal"

/-- Reads a number, or says why there is none. -/
def read (cs : List Char) : Except Fault Binary64 :=
  if cs.isEmpty then .error .empty else (read? cs).elim (.error .invalid) .ok

/-! ## Shortest text -/

/-- A positive double as a fraction, with the distances to the ends of the interval that rounds to
it, all over the same denominator. -/
structure Interval where
  value : Nat
  below : Nat
  above : Nat
  unit : Nat
  /-- The ends belong to it. -/
  closed : Bool

/-- The interval of numbers that round to the finite, positive double with these bits. -/
def intervalOf (bits : Nat) : Interval :=
  let field := bits / hiddenBit
  let fraction := bits % hiddenBit
  let m := if field = 0 then fraction else fraction + hiddenBit
  let q : Int := (max field 1 : Nat) - 1075
  let up := if 0 ≤ q then Nat.pow 2 q.toNat else 1
  let unit := if 0 ≤ q then 4 else 4 * Nat.pow 2 (-q).toNat
  { value := 4 * m * up
    below := (if fraction = 0 && 1 < field then 1 else 2) * up
    above := 2 * up
    unit
    closed := m % 2 == 0 }

/-- The distance from the value to `num / den` times the units of both. -/
def Interval.admits (i : Interval) (num den : Nat) : Bool :=
  let v := i.value * den
  let x := num * i.unit
  if x ≤ v then
    if i.closed then v - x ≤ i.below * den else v - x < i.below * den
  else
    if i.closed then x - v ≤ i.above * den else x - v < i.above * den

/-- The neighbours of the value on the grid of multiples of ten to the `grid`: the one that lies in
the interval, of two the nearer. -/
def Interval.onGrid? (i : Interval) (grid : Int) : Option Nat :=
  let up := if 0 ≤ grid then Nat.pow 10 grid.toNat else 1
  let den := if 0 ≤ grid then 1 else Nat.pow 10 (-grid).toNat
  let low := i.value * den / (i.unit * up)
  let lowFits := low != 0 && i.admits (low * up) den
  let highFits := i.admits ((low + 1) * up) den
  let rest := 2 * (i.value * den % (i.unit * up))
  match lowFits, highFits with
  | true, true => if rest < i.unit * up || (rest == i.unit * up && low % 2 == 0) then some low
    else some (low + 1)
  | true, false => some low
  | false, true => some (low + 1)
  | false, false => none

/-- Tries grids from `grid` on downwards, at most `n` of them. -/
def Interval.search (i : Interval) (grid : Int) : Nat → Nat × Int
  | 0 => (0, 0)
  | n + 1 =>
    match i.onGrid? grid with
    | some d => (d, grid)
    | none => i.search (grid - 1) n

/-- The fewest digits that read back to the finite, positive double, and their exponent. -/
def shortest (bits : Nat) : Nat × Int :=
  let i := intervalOf bits
  let whole := i.value / i.unit
  let start : Int :=
    if whole = 0 then -((digitCount (i.unit / i.value) : Int) - 1) else digitCount whole
  i.search start 20

/-- The digits of `n` with the point moved by `exponent` places, never in exponent notation. -/
def positional (n : Nat) (exponent : Int) : String :=
  let digits := Nat.toDigits 10 n
  if 0 ≤ exponent then String.ofList (digits ++ List.replicate exponent.toNat '0')
  else
    let places := (-exponent).toNat
    let digits := List.replicate (places + 1 - digits.length) '0' ++ digits
    let point := digits.length - places
    String.ofList (digits.take point ++ '.' :: digits.drop point)

/-- The shortest text that reads back. -/
def text (x : Binary64) : String :=
  let negative := signBit ≤ x.bits
  let bits := if negative then x.bits - signBit else x.bits
  let sign := if negative then "-" else ""
  if infinityBits < bits then "NaN"
  else if bits = infinityBits then sign ++ "inf"
  else if bits = 0 then sign ++ "0"
  else
    let (n, exponent) := shortest bits
    sign ++ positional n exponent

end Binary64

end ChatCommand.Number
