import Hyperslab.Decimal.Shortest

/-!
How floating-point numbers are written: with the shortest digits that identify the value,
positionally where the leading digit stands between the fourth place after the point and the
sixteenth before it, and with an exponent elsewhere. A positional number always has a digit after
the point.
-/

namespace Hyperslab.Decimal

/-- The digits of a decimal without trailing zeros, and the place of the point: the value is
`0.d₁d₂… * 10 ^ point`. -/
def significant (d : Scaled) : List Char × Int :=
  let all := Nat.toDigits 10 d.digits
  ((all.reverse.dropWhile (· = '0')).reverse, all.length + d.exponent)

/-- The digits with the point set. -/
def positional (digits : List Char) (point : Int) : List Char :=
  if point ≤ 0 then '0' :: '.' :: List.replicate (-point).toNat '0' ++ digits
  else if digits.length ≤ point.toNat then
    digits ++ List.replicate (point.toNat - digits.length) '0' ++ ['.', '0']
  else digits.take point.toNat ++ '.' :: digits.drop point.toNat

/-- One digit before the point, the rest after it, and the exponent of the first digit. -/
def scientific (digits : List Char) (point : Int) : List Char :=
  let fraction := digits.drop 1
  let exponent := point - 1
  digits.take 1 ++ (if fraction.isEmpty then [] else '.' :: fraction) ++
    'e' :: (if exponent < 0 then ['-'] else []) ++ Nat.toDigits 10 exponent.natAbs

/-- A finite float without its sign. -/
def unsignedChars (x : Float) : List Char :=
  if magnitude x = 0 then ['0', '.', '0']
  else
    let (digits, point) := significant (Binary.ofFloat x).shortest
    if -4 < point ∧ point ≤ 16 then positional digits point else scientific digits point

/-- The text of a float. -/
def chars (x : Float) : List Char :=
  if !isNumber x then ['N', 'a', 'N']
  else
    (if isNegative x then ['-'] else []) ++
      if isFinite x then unsignedChars x else ['i', 'n', 'f']

end Hyperslab.Decimal
