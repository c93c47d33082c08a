import Hyperslab.Fault
import Hyperslab.Operator
import Hyperslab.Pattern.Whole

/-!
Comparing values. Strings are ordered by code points, and false comes before true. An integer is
widened where it meets a float. Values of other kinds do not compare, except that a pattern looks
at the text of anything.
-/

namespace Hyperslab

open Pattern (Regex)

namespace Value

/-- How two values are ordered, if values of their kinds can be. A float that is not a number has
no place in the order. -/
def order? (lhs rhs : Value) : Except Fault (Option Ordering) :=
  match lhs, rhs with
  | str a, str b => .ok (some (compare a b))
  | bool a, bool b => .ok (some (compare a b))
  | int a, int b => .ok (some (compare a.toInt b.toInt))
  | float a, rhs =>
    match rhs.widen? with
    | some b => .ok (Decimal.order? a b)
    | none => .error (.typeMismatch lhs rhs)
  | lhs, float b =>
    match lhs.widen? with
    | some a => .ok (Decimal.order? a b)
    | none => .error (.typeMismatch lhs rhs)
  | lhs, rhs => .error (.typeMismatch lhs rhs)

/-- Match the text of a value against a pattern that is read on the spot. -/
def matchPattern (value : Value) (pattern : String) : Except Fault Bool :=
  match Pattern.compile? pattern Pattern.defaultBytes with
  | some regex => .ok (regex.isMatch value.text)
  | none => .error (.badPattern pattern)

/-- Compare two values. A pattern match uses `regex` if it is there, and else reads its pattern from
the right operand. -/
def compareBy (op : Operator) (lhs rhs : Value) (regex : Option Regex) : Except Fault Bool :=
  match op, regex with
  | .like, some regex => .ok (regex.isMatch lhs.text)
  | .like, none => lhs.matchPattern rhs.text
  | op, _ => (lhs.order? rhs).map op.admits

end Value

end Hyperslab
