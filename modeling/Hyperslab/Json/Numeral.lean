import Hyperslab.Decimal.Literal
import Hyperslab.Value

/-!
Numerals of JSON texts and their values. A numeral without a point and an exponent is an integer if
it fits a word. Any other is a float: as many of its digits as fit a word are multiplied by, or
divided by, a power of ten. That takes a second rounding, so the float is not always the nearest
one.
-/

namespace Hyperslab.Json

/-- A numeral as it is written. The exponent has its sign apart from its digits. -/
structure Numeral where
  negative : Bool
  whole : List Char
  fraction : Option (List Char)
  exponent : Option (Bool × List Char)
  deriving DecidableEq, Repr

/-- The value of a numeral. Integers may be signed or unsigned words. -/
inductive Quantity where
  | integer (n : Int)
  | float (x : Float)

/-- A word with one more decimal digit, if the result is still a word. -/
def appendDigit? (word : Nat) (digit : Char) : Option Nat :=
  let n := 10 * word + (digit.toNat - '0'.toNat)
  if n < UInt64.size then some n else none

/-- The word made of the leading digits that fit, and how many digits are left over. -/
def takeWhole (word : Nat) : List Char → Nat × Nat
  | [] => (word, 0)
  | digit :: rest =>
    match appendDigit? word digit with
    | some word => takeWhole word rest
    | none => (word, rest.length + 1)

/-- The word made longer by the leading digits that fit, and how many digits those are. -/
def takeFraction (word : Nat) : List Char → Nat × Nat
  | [] => (word, 0)
  | digit :: rest =>
    match appendDigit? word digit with
    | some word =>
      let (word, taken) := takeFraction word rest
      (word, taken + 1)
    | none => (word, 0)

def powerOfTen (n : Nat) : Float := .ofScientific 1 false n

/-- Divide by a power of ten, in steps that are themselves floats. -/
def divideByPower (x : Float) (n : Nat) : Float :=
  if n ≤ 308 then x / powerOfTen n
  else if x == 0 then x
  else divideByPower (x / powerOfTen 308) (n - 308)
termination_by n

/-- A word times a power of ten. There is no value if it is too large for a float. -/
def scale? (word : Nat) (exponent : Int) : Option Float :=
  let x := Float.ofNat word
  if exponent < 0 then some (divideByPower x exponent.natAbs)
  else if 308 < exponent then if word = 0 then some x else none
  else
    let y := x * powerOfTen exponent.toNat
    if Decimal.isFinite y then some y else none

/-- An exponent has to be a signed word of half the usual length. -/
def exponentBound : Nat := 0x80000000

namespace Numeral

/-- The absolute value as a float. -/
def magnitude? (n : Numeral) : Option Float :=
  let (word, left) := takeWhole 0 n.whole
  let (word, taken) := takeFraction word (n.fraction.getD [])
  let start : Int := left - taken
  match n.exponent with
  | none => scale? word start
  | some (negative, digits) =>
    let e := Decimal.ofDigits digits
    if e < exponentBound then scale? word (if negative then start - e else start + e)
    else if word = 0 || negative then some 0
    else none

def float? (n : Numeral) : Option Float :=
  n.magnitude?.map fun x => if n.negative then -x else x

/-- The value of a numeral. Minus zero is a float. -/
def quantity? (n : Numeral) : Option Quantity :=
  let word := Decimal.ofDigits n.whole
  if n.fraction.isNone && n.exponent.isNone && word < UInt64.size then
    if !n.negative then some (.integer word)
    else if 0 < word && word ≤ 0x8000000000000000 then some (.integer (-word))
    else some (.float (-Float.ofNat word))
  else n.float?.map .float

end Numeral

/-- A number as a scalar. Integers that no signed word holds become floats. -/
def Quantity.toValue : Quantity → Value
  | integer n =>
    if n ≤ Int64.maxValue.toInt then .int (.ofInt n) else .float (.ofInt n)
  | float x => .float x

end Hyperslab.Json
