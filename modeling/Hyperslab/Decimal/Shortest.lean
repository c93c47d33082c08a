import Hyperslab.Decimal.Binary

/-!
The fewest decimal digits that identify a double-precision number. A decimal identifies the value
if it lies among the reals that round to it. Grids `10 ^ e` are tried from coarse to fine; the
first that has a point in that interval decides how many digits are needed.
-/

namespace Hyperslab.Decimal

/-- A non-negative decimal `digits * 10 ^ exponent`. -/
structure Scaled where
  digits : Nat
  exponent : Int
  deriving DecidableEq, Repr

namespace Binary

/-- The lower end of the interval of reals that round to the value, in units of a quarter of its
last binary place. -/
def lowerEnd (b : Binary) : Nat := 4 * b.mantissa - (if b.narrowBelow then 1 else 2)

/-- The upper end of that interval, in the same units. -/
def upperEnd (b : Binary) : Nat := 4 * b.mantissa + 2

/-- Numerator and denominator of the step of the grid `10 ^ e`, in the same units. -/
def gridStep (b : Binary) (e : Int) : Nat × Nat :=
  let unit := b.power - 2
  (Nat.pow 10 e.toNat * Nat.pow 2 (-unit).toNat, Nat.pow 2 unit.toNat * Nat.pow 10 (-e).toNat)

/-- Does the grid point `k` lie among the reals that round to the value? The ends belong to the
interval when the mantissa is even. -/
def identifiedBy (b : Binary) (e : Int) (k : Nat) : Bool :=
  let (num, den) := b.gridStep e
  if b.mantissa % 2 = 0 then b.lowerEnd * den ≤ k * num && k * num ≤ b.upperEnd * den
  else b.lowerEnd * den < k * num && k * num < b.upperEnd * den

/-- The point of the grid `10 ^ e` that is nearest to the value and identifies it, if any does.
Of two equally near points the upper one is taken. -/
def onGrid? (b : Binary) (e : Int) : Option Scaled :=
  let (num, den) := b.gridStep e
  let value := 4 * b.mantissa * den
  let below := value / num
  match b.identifiedBy e below, b.identifiedBy e (below + 1) with
  | true, true =>
    if value - below * num < (below + 1) * num - value then some ⟨below, e⟩
    else some ⟨below + 1, e⟩
  | true, false => some ⟨below, e⟩
  | false, true => some ⟨below + 1, e⟩
  | false, false => none

/-- An exponent of ten that the value does not exceed, at most one too large. -/
def ceilingExponent (b : Binary) : Int :=
  if 0 ≤ b.power then (Nat.toDigits 10 (b.mantissa * Nat.pow 2 b.power.toNat)).length
  else
    let den := Nat.pow 2 (-b.power).toNat
    if den ≤ b.mantissa then (Nat.toDigits 10 (b.mantissa / den)).length
    else 1 - (Nat.toDigits 10 (den / b.mantissa)).length

/-- The value itself as a decimal. -/
def exact (b : Binary) : Scaled :=
  if 0 ≤ b.power then ⟨b.mantissa * Nat.pow 2 b.power.toNat, 0⟩
  else ⟨b.mantissa * Nat.pow 5 (-b.power).toNat, b.power⟩

/-- The shortest decimal that identifies a value other than zero. -/
def shortest (b : Binary) : Scaled :=
  let ceiling := b.ceilingExponent
  ((List.range 20).findSome? fun (n : Nat) => b.onGrid? (ceiling - n)).getD b.exact

end Binary

end Hyperslab.Decimal
