/-!
What the bits of a double-precision number say: its sign, its magnitude as a word that grows with
the value, and for a finite value the exact product `mantissa * 2 ^ power`.
-/

namespace Hyperslab.Decimal

/-- The bits below the sign. Among numbers they grow with the absolute value. -/
def magnitude (x : Float) : Nat := (x.toBits &&& 0x7FFFFFFFFFFFFFFF).toNat

def isNegative (x : Float) : Bool := x.toBits >>> 63 = 1

/-- The magnitude of infinity; everything above it is not a number. -/
def infiniteMagnitude : Nat := 0x7FF0000000000000

def isNumber (x : Float) : Bool := magnitude x ≤ infiniteMagnitude

def isFinite (x : Float) : Bool := magnitude x < infiniteMagnitude

/-- An integer that orders numbers as their values do. Both zeros have the key zero. -/
def orderKey (x : Float) : Int :=
  if isNegative x then -(magnitude x : Int) else magnitude x

/-- How two floats compare. What is not a number compares with nothing. -/
def order? (x y : Float) : Option Ordering :=
  if isNumber x && isNumber y then some (compare (orderKey x) (orderKey y)) else none

/-- A finite non-negative value `mantissa * 2 ^ power`. -/
structure Binary where
  mantissa : Nat
  power : Int
  /-- The next value below is half as far away as the next value above. -/
  narrowBelow : Bool

/-- The leading bit of a mantissa. Normal numbers have it without storing it. -/
def hiddenBit : Nat := 0x10000000000000

/-- The absolute value of a finite float. -/
def Binary.ofFloat (x : Float) : Binary :=
  let exponent : Nat := magnitude x / hiddenBit
  let fraction : Nat := magnitude x % hiddenBit
  if exponent = 0 then ⟨fraction, -1074, false⟩
  else ⟨hiddenBit + fraction, (exponent : Int) - 1075, fraction = 0 && 1 < exponent⟩

/-- Swapping the operands reverses the order, and leaves incomparable operands incomparable. -/
theorem order?_swap (x y : Float) : order? y x = (order? x y).map Ordering.swap := by
  unfold order?
  cases isNumber x <;> cases isNumber y <;> simp
  exact @Std.OrientedCmp.eq_swap Int compare _ _ _

end Hyperslab.Decimal
