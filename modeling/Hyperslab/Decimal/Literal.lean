import Hyperslab.Decimal.Binary

/-!
Decimal numerals and the floats they stand for. A numeral keeps its digits as written; its value
is the nearest double-precision number.
-/

namespace Hyperslab.Decimal

def isDigit (c : Char) : Bool := '0' ≤ c && c ≤ '9'

/-- The number that a string of decimal digits stands for. -/
def ofDigits (digits : List Char) : Nat := Nat.ofDigitChars 10 digits 0

/-- A decimal numeral: an optional sign, digits around a point, and a power of ten. -/
structure Literal where
  negative : Bool
  whole : List Char
  fraction : List Char
  exponent : Int

/-- The float nearest to `digits * 10 ^ exponent`. A power of ten that no float comes near is not
computed. -/
def nearest (digits : Nat) (exponent : Int) : Float :=
  let size := exponent + (Nat.toDigits 10 digits).length
  if digits = 0 ∨ size < -400 then 0
  else if 400 < size then 1 / 0
  else Float.ofScientific digits (exponent < 0) exponent.natAbs

/-- The float nearest to a numeral. -/
def Literal.toFloat (l : Literal) : Float :=
  let absolute := nearest (ofDigits (l.whole ++ l.fraction)) (l.exponent - l.fraction.length)
  if l.negative then -absolute else absolute

/-- Digits with an optional sign in front. -/
def readExponent? : List Char → Option Int
  | '-' :: digits => (magnitude? digits).map fun n => -(n : Int)
  | '+' :: digits => (magnitude? digits).map Int.ofNat
  | digits => (magnitude? digits).map Int.ofNat
where
  magnitude? (digits : List Char) : Option Nat :=
    if !digits.isEmpty && digits.all isDigit then some (ofDigits digits) else none

/-- Read the whole text as a decimal number, or as one of the names of the values that have no
numeral. At least one digit stands on one side of the point. -/
def readFloat? (text : List Char) : Option Float :=
  let (negative, unsigned) := match text with
    | '-' :: rest => (true, rest)
    | '+' :: rest => (false, rest)
    | rest => (false, rest)
  let sign (x : Float) := if negative then -x else x
  let name := unsigned.map Char.toLower
  if name = "nan".toList then some (sign (0 / 0))
  else if name = "inf".toList ∨ name = "infinity".toList then some (sign (1 / 0))
  else
    let whole := unsigned.takeWhile isDigit
    let afterWhole := unsigned.dropWhile isDigit
    let (fraction, afterFraction) := match afterWhole with
      | '.' :: rest => (rest.takeWhile isDigit, rest.dropWhile isDigit)
      | rest => ([], rest)
    if whole.isEmpty && fraction.isEmpty then none
    else
      match afterFraction with
      | [] => some (Literal.toFloat ⟨negative, whole, fraction, 0⟩)
      | c :: rest =>
        if c = 'e' ∨ c = 'E' then
          (readExponent? rest).map fun e => Literal.toFloat ⟨negative, whole, fraction, e⟩
        else none

end Hyperslab.Decimal
